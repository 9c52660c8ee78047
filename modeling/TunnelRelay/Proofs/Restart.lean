import Mathlib.Data.List.Forall2
import TunnelRelay.Proofs.Frames
import TunnelRelay.Proofs.HostCalls
import TunnelRelay.Proofs.Shift
/-!
# A lost connection starts anew

After a connected attempt has been lost, nothing of it is left but what it has done to its
surroundings. So from the end of the pause on, a connection goes as a fresh one would go that is
started then and there: `Run.renewed` is that connection, `Run.Resumes` relates the two step by
step, and `Run.Continues` is what an observer can compare. The clock of the fresh one starts at 0,
and its interfaces are numbered from 0.
-/

namespace TunnelRelay.Relay

open Net

/-! ## The same at a later time -/

/-- Names of interfaces with numbers that are `n` apart. -/
def Renumbered (n : Nat) (device device' : String) : Prop :=
  ∃ i, device = deviceName i ∧ device' = deviceName (n + i)

/-- The same call, a time `t` later and after `n` more interfaces. -/
structure CallRecord.Later (t n : Nat) (c c' : CallRecord) : Prop where
  time : c'.time = t + c.time
  call : c.call.Matches (Renumbered n) c'.call
  state : c'.state = c.state

/-- The same attempt, a time `t` later and on another interface. -/
def Attempt.later (t : Nat) (device : String) (a : Attempt) : Attempt :=
  { a with device := device, outbound := a.outbound.later t, inbound := a.inbound.later t }

/-- Where a connection stands that goes on from `p`, beside a fresh one. The end of a pause stands
for the start. -/
inductive Phase.Later (p : Run) : Phase → Phase → Prop
  | starting {server : Address} (hr : p.resolve = .ok server) :
    Later p .starting (.pausing server 0 p.now)
  | opening (server : Address) (f : Nat) : Later p (.opening server f) (.opening server f)
  | attempting (server : Address) (f : Nat) :
    Later p (.attempting server f) (.attempting server f)
  | pumping {a : Attempt} {device : String} (hd : Renumbered p.established a.device device) :
    Later p (.pumping a) (.pumping (a.later p.now device))
  | pausing (server : Address) (f wake : Nat) :
    Later p (.pausing server f wake) (.pausing server f (p.now + wake))
  | done (result : Except Error Unit) : Later p (.done result) (.done result)

/-- The server of a phase. -/
def Phase.server? : Phase → Option Address
  | .opening server _ | .attempting server _ | .pausing server _ _ => some server
  | .pumping a => some a.server
  | _ => none

namespace Run

/-- A fresh connection on the terms of another one, in the surroundings that the other one has now:
what its host will answer, what waits on its interface, the failures to come, the network and the
server. -/
def renewed (p : Run) : Run where
  config := p.config
  hasListener := p.hasListener
  hasIntent := p.hasIntent
  network := p.network
  names := p.names
  host := p.host
  channel := {
    now := 0, wire := p.channel.wire, transport := ⟨[], false, p.channel.transport.isFull⟩
    serverOpen := p.channel.serverOpen, started := 0, timing := {}, sent := [], delivered := [] }

theorem renewed_isFresh (p : Run) : p.renewed.IsFresh := by
  constructor <;> rfl

/-- What an observer sees of a connection `r` that goes on from `p`, beside a fresh one, `s`. The log
is not compared: a start has lines of its own there. -/
structure Continues (p s r : Run) : Prop where
  now : r.now = p.now + s.now
  state : r.state = if s.state = .idle then p.state else s.state
  history : r.history = p.history ++ s.history.tail
  result : r.result? = s.result?
  calls : ∃ cs, r.calls = p.calls ++ cs ∧
    List.Forall₂ (CallRecord.Later p.now p.established) s.calls cs
  sent : r.channel.sent = p.channel.sent ++ s.channel.sent.map (Sent.later p.now)
  delivered : r.channel.delivered = p.channel.delivered ++ s.channel.delivered.map (passLater p.now)
  taken : r.channel.taken = p.channel.taken ++ s.channel.taken.map (passLater p.now)

/-- A connection `r` that goes on from `p` as a fresh one goes that is now `s`. While pumps run
their links are the same; otherwise the channels agree in all but what a new link resets. -/
structure Resumes (p s r : Run) : Prop where
  config : r.config = s.config
  hasListener : r.hasListener = s.hasListener
  hasIntent : r.hasIntent = s.hasIntent
  network : r.network = s.network
  resolve : s.resolve = p.resolve
  host : r.host = s.host
  stop : r.stop = s.stop
  established : r.established = p.established + s.established
  phase : s.phase.Later p r.phase
  channel : r.channel.startLink = (s.channel.after p.channel).startLink
  link : ∀ a, s.phase = .pumping a → r.channel = s.channel.after p.channel
  state : r.state = if s.state = .idle then p.state else s.state
  history : ∃ states, s.history = .idle :: states ∧ r.history = p.history ++ states
  calls : ∃ cs, r.calls = p.calls ++ cs ∧
    List.Forall₂ (CallRecord.Later p.now p.established) s.calls cs

section
variable {p s r : Run}

theorem Resumes.now (h : Resumes p s r) : r.now = p.now + s.now := congrArg Channel.now h.channel

theorem Resumes.wire (h : Resumes p s r) : r.channel.wire = s.channel.wire :=
  (congrArg Channel.wire h.channel :)

theorem Resumes.hasDescriptor (h : Resumes p s r) : r.hasDescriptor = s.hasDescriptor := by
  rw [Run.hasDescriptor, h.wire, Run.hasDescriptor]

theorem Resumes.continues (h : Resumes p s r) : Continues p s r where
  now := h.now
  state := h.state
  history := by
    obtain ⟨states, hs, hr⟩ := h.history
    rw [hr, hs, List.tail_cons]
  result := by
    have hp := h.phase
    unfold result?
    generalize r.phase = x at hp
    generalize s.phase = y at hp
    cases hp <;> rfl
  calls := h.calls
  sent := congrArg Channel.sent h.channel
  delivered := congrArg Channel.delivered h.channel
  taken := congrArg Channel.taken h.channel

/-! ## What a connection does -/

theorem Resumes.withLog (h : Resumes p s r) (log log' : List LogEvent) :
    Resumes p { s with log := log } { r with log := log' } := { h with }

/-- A change around the connection that a new link keeps. -/
theorem Resumes.modify (h : Resumes p s r) {g : Channel → Channel}
    (hl : ∀ c, (g c).startLink = g c.startLink)
    (ha : ∀ c, (g c).after p.channel = g (c.after p.channel)) :
    Resumes p { s with channel := g s.channel } { r with channel := g r.channel } :=
  { h with
    channel := by
      show (g r.channel).startLink = ((g s.channel).after p.channel).startLink
      rw [ha, hl, hl, h.channel]
    link := by
      intro a hp
      show g r.channel = (g s.channel).after p.channel
      rw [ha, h.link a hp] }

/-- The pumps have done something to their link. -/
theorem Resumes.pump (h : Resumes p s r) {a : Attempt} {device : String}
    (hd : Renumbered p.established a.device device) (c : Channel) :
    Resumes p { s with channel := c, phase := .pumping a }
      { r with channel := c.after p.channel, phase := .pumping (a.later p.now device) } :=
  { h with phase := .pumping hd, channel := rfl, link := fun _ _ => rfl }

/-- A call in an attempt. -/
theorem Resumes.call (h : Resumes p s r) (hs : s.state ≠ .idle) {c c' : HostCall}
    (hc : c.Matches (Renumbered p.established) c') : Resumes p (s.call c) (r.call c') := by
  obtain ⟨cs, hcs, hl⟩ := h.calls
  have hstate : r.state = s.state := by rw [h.state, if_neg hs]
  refine { h with calls := ⟨cs ++ [⟨r.now, c', r.state⟩], ?_, ?_⟩ }
  · show r.calls ++ _ = _
    rw [hcs, List.append_assoc]
  · exact List.rel_append hl (.cons ⟨h.now, hc, hstate⟩ .nil)

/-- A state that is published where no pumps run, or none any more. -/
theorem Resumes.publish (h : Resumes p s r) {state : RelayState} (hs : state ≠ .idle)
    {phase phase' : Phase} (hp : phase.Later p phase') (hn : ∀ a, phase ≠ .pumping a) :
    Resumes p { s.publish state with phase := phase } { r.publish state with phase := phase' } := by
  obtain ⟨states, hh, hh'⟩ := h.history
  refine { h with
    phase := hp
    link := fun a ha => absurd ha (hn a)
    state := (if_neg hs).symm
    history := ⟨states ++ [state], ?_, ?_⟩ }
  · show s.history ++ _ = _
    rw [hh]
    rfl
  · show r.history ++ _ = _
    rw [hh', List.append_assoc]

theorem Resumes.finish (h : Resumes p s r) (result : Except Error Unit) :
    Resumes p (s.finish result) (r.finish result) := by
  refine h.publish ?_ (.done result) fun _ => Phase.noConfusion
  cases result <;> exact RelayState.noConfusion

theorem Resumes.afterAttempt (h : Resumes p s r) (server : Address) (f : Nat) :
    Resumes p (s.afterAttempt server f) (r.afterAttempt server f) := by
  unfold Run.afterAttempt
  rw [h.stop, h.config, h.now, Nat.add_assoc]
  split
  · exact (h.withLog _ _).finish _
  · split
    · exact (h.withLog _ _).finish _
    · exact h.publish RelayState.noConfusion (.pausing _ _ _) fun _ => Phase.noConfusion

/-- The pumps of both start on a new link. -/
theorem Resumes.startPumps (h : Resumes p s r) (server : Address) {device device' : String}
    (hd : Renumbered p.established device device') :
    Resumes p (s.startPumps server device) (r.startPumps server device') := by
  obtain ⟨states, hh, hh'⟩ := h.history
  refine { h with
    phase := ?_
    channel := congrArg Channel.startLink h.channel
    link := fun _ _ => h.channel
    state := (if_neg RelayState.noConfusion).symm
    history := ⟨states ++ [.connected], ?_, ?_⟩ }
  · show Phase.Later p _ (.pumping ⟨server, device', false, false, {}, { lastReceived := r.now }⟩)
    rw [h.now]
    exact .pumping hd
  · show s.history ++ _ = _
    rw [hh]
    rfl
  · show r.history ++ _ = _
    rw [hh', List.append_assoc]

/-- In an attempt both get the same answers. -/
theorem resumes_frames (p : Run) : Frames id (Renumbered p.established)
    (fun s r => Resumes p s r ∧ s.state ≠ .idle) where
  answers := HostScript.answers_id
  same h := ⟨h.1.host, h.1.network, h.1.config, h.1.hasListener, h.1.hasIntent, h.1.hasDescriptor⟩
  withHost h host := ⟨{ h.1 with host := rfl }, h.2⟩
  noteWith h _ _ _ _ := ⟨{ h.1 with }, h.2⟩
  call h _ _ hc _ := ⟨h.1.call h.2 hc, h.2⟩
  device h := ⟨_, rfl, by rw [← h.1.established]; rfl⟩
  counts h := ⟨{ h.1 with established := by rw [h.1.established]; rfl }, h.2⟩

theorem Resumes.openAttempt (h : Resumes p s r) (hs : s.state ≠ .idle) (server : Address)
    (f : Nat) : Resumes p (s.openAttempt server f) (r.openAttempt server f) := by
  have after {s r : Run} (h : Resumes p s r) (server : Address) (f : Nat) :
      (s.afterAttempt server f).state ≠ .idle := by
    rcases s.afterAttempt_cases server f with ⟨-, _, e⟩ | ⟨-, -, _, e⟩ | ⟨-, -, e⟩ <;> rw [e] <;>
      exact RelayState.noConfusion
  refine ((resumes_frames p).openAttempt ?_ ?_ ?_ ⟨h, hs⟩ server f).1
  · intro s r e h
    exact ⟨h.1.finish _, RelayState.noConfusion⟩
  · intro s r server f h
    exact ⟨h.1.afterAttempt server f, after h.1 server f⟩
  · intro s r server device device' hd h
    exact ⟨h.1.startPumps server hd, RelayState.noConfusion⟩

theorem Resumes.beginAttempt (h : Resumes p s r) (server : Address) (f : Nat) :
    Resumes p (s.beginAttempt server f) (r.beginAttempt server f) := by
  unfold Run.beginAttempt
  rw [h.stop]
  split
  · exact (h.withLog _ _).finish _
  · exact h.publish RelayState.noConfusion (.attempting _ _) fun _ => Phase.noConfusion

/-- The interface is closed, and the host's script goes on alike. -/
theorem Resumes.closeInterface (h : Resumes p s r) (hs : s.state ≠ .idle)
    {device device' : String} (hd : Renumbered p.established device device') :
    Resumes p (s.closeInterface device) (r.closeInterface device') := by
  have hhost : Resumes p { s with host := s.host.takeClose.2 }
      { r with host := s.host.takeClose.2 } := { h with host := rfl }
  have hcall := hhost.call hs (.close hd s.host.takeClose.1)
  rw [closeInterface_eq, closeInterface_eq, h.host]
  unfold afterClose
  rw [h.hasDescriptor]
  cases s.hasDescriptor with
  | true => exact (hcall.modify (g := Channel.discard) (fun _ => rfl) fun _ => rfl).withLog _ _
  | false => exact hcall.withLog _ _

/-- A connected attempt is over. -/
theorem Resumes.tearDown (h : Resumes p s r) (hs : s.state ≠ .idle) (a : Attempt)
    {device : String} (hd : Renumbered p.established a.device device)
    (o i : Except Error PumpStats) :
    Resumes p (s.tearDown a o i) (r.tearDown (a.later p.now device) o i) := by
  have report {s r : Run} (h : Resumes p s r) (direction : String)
      (result : Except Error PumpStats) :
      Resumes p (s.reportPump direction result) (r.reportPump direction result) := by
    obtain ⟨log, e⟩ := s.reportPump_eq direction result
    obtain ⟨log', e'⟩ := r.reportPump_eq direction result
    rw [e, e']
    exact h.withLog log log'
  exact (report (report (h.closeInterface hs hd) _ _) _ _).afterAttempt _ _

/-! ## Step by step -/

/-- The end of the pause stands for the look-up of the server, which has been found before. -/
theorem Resumes.lookUp (h : Resumes p s r) {server : Address} (hr : p.resolve = .ok server) :
    Resumes p s.lookUp
      (if r.stop then r.finishStopped else { r with phase := .opening server 0 }) := by
  unfold Run.lookUp
  dsimp only
  rw [show (s.note .info supervisorTarget "Starting").resolve = s.resolve from rfl, h.resolve, hr]
  split
  · rename_i hs
    rw [if_pos (h.stop.trans hs)]
    exact (h.withLog _ _).finish _
  · rename_i hs
    rw [if_neg (h.stop ▸ hs)]
    exact { h with phase := .opening server 0, link := fun _ => Phase.noConfusion }

theorem Resumes.outboundStep (h : Resumes p s r) {a : Attempt} (hp : s.phase = .pumping a)
    {device : String} (hd : Renumbered p.established a.device device) :
    Option.Rel (Resumes p) (s.outboundStep a) (r.outboundStep (a.later p.now device)) := by
  have hstep : (a.later p.now device).outbound.step (r.stop || (a.later p.now device).stop)
      r.config.idleInterval.toNat r.channel =
      (a.outbound.step (s.stop || a.stop) s.config.idleInterval.toNat s.channel).map
        fun x => (x.1.later p.now, x.2.after p.channel) := by
    rw [h.link a hp, h.stop, h.config]
    exact Outbound.step_after _ _ _ _ _
  unfold Run.outboundStep
  rw [hstep]
  cases a.outbound.step (s.stop || a.stop) s.config.idleInterval.toNat s.channel with
  | none => exact .none
  | some x =>
    obtain ⟨o, c⟩ := x
    dsimp only [Option.map_some]
    rw [Outbound.result?_later]
    exact .some (h.pump (a := { a with
      outbound := o, stopInbound := a.stopInbound || o.result?.isSome }) hd c)

theorem Resumes.inboundStep (h : Resumes p s r) {a : Attempt} (hp : s.phase = .pumping a)
    {device : String} (hd : Renumbered p.established a.device device) :
    Option.Rel (Resumes p) (s.inboundStep a) (r.inboundStep (a.later p.now device)) := by
  have hstep : (a.later p.now device).inbound.step
      (r.stop || (a.later p.now device).stop || (a.later p.now device).stopInbound)
      r.inboundConfig r.channel =
      (a.inbound.step (s.stop || a.stop || a.stopInbound) s.inboundConfig s.channel).map
        fun x => (x.1.later p.now, x.2.after p.channel) := by
    rw [h.link a hp, h.stop, inboundConfig, h.config]
    exact Inbound.step_after _ _ _ _ _
  unfold Run.inboundStep
  rw [hstep]
  cases a.inbound.step (s.stop || a.stop || a.stopInbound) s.inboundConfig s.channel with
  | none => exact .none
  | some x =>
    obtain ⟨i, c⟩ := x
    exact .some (h.pump (a := { a with inbound := i, stop := a.stop || i.hasFailed }) hd c)

theorem Resumes.join (h : Resumes p s r) (hs : s.state ≠ .idle) (a : Attempt) {device : String}
    (hd : Renumbered p.established a.device device) :
    Option.Rel (Resumes p) (s.join a) (r.join (a.later p.now device)) := by
  unfold Run.join
  rw [show (a.later p.now device).outbound.result? = a.outbound.result? from
      a.outbound.result?_later p.now,
    show (a.later p.now device).inbound.result? = a.inbound.result? from rfl]
  cases a.outbound.result? with
  | none => exact .none
  | some o =>
    cases a.inbound.result? with
    | none => exact .none
    | some i => exact .some (h.tearDown hs a hd o i)

/-- What a task of one connection can do, the same task of the other one can do as well. -/
theorem Resumes.perform (h : Resumes p s r) (hs : s.phase.Shows s.state) (t : Task) :
    Option.Rel (Resumes p) (s.perform t) (r.perform t) := by
  have hphase := h.phase
  unfold Run.perform
  generalize hx : s.phase = x at hphase hs
  generalize hy : r.phase = y at hphase
  cases hphase with
  | @starting server hr =>
    cases t with
    | outbound | inbound => exact .none
    | supervisor =>
      have hle : p.now ≤ r.now := by rw [h.now]; exact Nat.le_add_right _ _
      have hl := h.lookUp hr
      dsimp only
      rw [if_pos hle]
      split at hl
      · rename_i hstop; rw [if_pos hstop]; exact .some hl
      · rename_i hstop; rw [if_neg hstop]; exact .some hl
  | opening server f =>
    cases t with
    | outbound | inbound => exact .none
    | supervisor => exact .some (h.beginAttempt server f)
  | attempting server f =>
    cases t with
    | outbound | inbound => exact .none
    | supervisor =>
      refine .some (h.openAttempt ?_ server f)
      rw [show s.state = .connecting (f + 1) from hs]
      exact RelayState.noConfusion
  | @pumping a device hd =>
    have hne : s.state ≠ .idle := by
      rw [show s.state = .connected from hs]
      exact RelayState.noConfusion
    cases t with
    | outbound => exact h.outboundStep hx hd
    | inbound => exact h.inboundStep hx hd
    | supervisor => exact h.join hne a hd
  | pausing server f wake =>
    cases t with
    | outbound | inbound => exact .none
    | supervisor =>
      have hnow : p.now + wake ≤ r.now ↔ wake ≤ s.now := by
        rw [h.now]
        exact Nat.add_le_add_iff_left
      dsimp only
      by_cases hstop : s.stop = true
      · rw [if_pos hstop, if_pos (h.stop.trans hstop)]
        exact .some ((h.withLog _ _).finish _)
      · have hstop' : ¬r.stop = true := by rwa [h.stop]
        rw [if_neg hstop, if_neg hstop']
        by_cases hw : wake ≤ s.now
        · rw [if_pos hw, if_pos (hnow.2 hw)]
          exact .some { h with phase := .opening server f, link := fun _ => Phase.noConfusion }
        · rw [if_neg hw, if_neg (mt hnow.1 hw)]
          exact .none
  | done result => cases t <;> exact .none

/-- While both rest, the one wakes as much later as it has started later. -/
theorem Resumes.timer?_eq (h : Resumes p s r) (hn : s.step = none) :
    r.timer? = s.timer?.map (p.now + ·) := by
  have hphase := h.phase
  unfold step at hn
  unfold timer?
  generalize hx : s.phase = x at hphase hn
  generalize hy : r.phase = y at hphase
  cases hphase with
  | starting => cases hn
  | opening | attempting | done | pausing => rfl
  | @pumping a device hd =>
    have hi : (a.later p.now device).inbound.timer? r.inboundConfig r.channel =
        (a.inbound.timer? s.inboundConfig s.channel).map (p.now + ·) := by
      rw [h.link a hx, inboundConfig, h.config]
      exact Inbound.timer?_after _ _ _ _
    have ho : (a.later p.now device).outbound.timer? = a.outbound.timer?.map (p.now + ·) :=
      Outbound.timer?_later _ _
    dsimp only
    rw [hi, ho]
    cases a.outbound.timer? <;> cases a.inbound.timer? s.inboundConfig s.channel <;>
      simp [Nat.add_min_add_left]

theorem Resumes.moveClock (h : Resumes p s r) (t : Nat) :
    Resumes p (s.moveClock t) (r.moveClock (p.now + t)) :=
  { h with
    channel := by
      show ({ r.channel with now := p.now + t } : Channel).startLink = _
      exact congrArg (fun c => { c with now := p.now + t, started := p.now + t }) h.channel
    link := fun a ha => congrArg (fun c => { c with now := p.now + t }) (h.link a ha) }

theorem Resumes.isPumping (h : Resumes p s r) : r.isPumping = s.isPumping := by
  have hphase := h.phase
  unfold Run.isPumping
  generalize s.phase = x at hphase
  generalize r.phase = y at hphase
  cases hphase <;> rfl

theorem Resumes.ne_idle (h : Resumes p s r) : s.phase ≠ .idle ∧ r.phase ≠ .idle := by
  have hphase := h.phase
  generalize s.phase = x at hphase
  generalize r.phase = y at hphase
  cases hphase <;> exact ⟨Phase.noConfusion, Phase.noConfusion⟩

theorem Resumes.modifyWire (h : Resumes p s r) (f : Wire → Wire) :
    Resumes p (s.modifyWire f) (r.modifyWire f) :=
  h.modify (g := fun c => { c with wire := f c.wire }) (fun _ => rfl) fun _ => rfl

/-- The same thing happens around both. What the server sends between attempts reaches neither. -/
theorem Resumes.happen (h : Resumes p s r) (e : Event) : Resumes p (s.happen e) (r.happen e) := by
  cases e with
  | push | readError | writeError | wireFull =>
    simp only [Run.happen]
    exact h.modifyWire _
  | transportFull b =>
    exact h.modify (g := fun c => { c with transport := { c.transport with isFull := b } })
      (fun _ => rfl) fun _ => rfl
  | serverClose =>
    exact h.modify (g := fun c => { c with serverOpen := false }) (fun _ => rfl) fun _ => rfl
  | serverSend packet =>
    have hopen : r.channel.serverOpen = s.channel.serverOpen :=
      (congrArg Channel.serverOpen h.channel :)
    unfold Run.happen
    dsimp only
    rw [h.isPumping, hopen]
    split
    · rename_i hp
      rw [Bool.and_eq_true] at hp
      unfold Run.isPumping at hp
      split at hp
      · rename_i a ha
        have hlink := congrArg (fun c : Channel =>
          { c with transport := { c.transport with inbox := c.transport.inbox ++ [packet] } })
          (h.link a ha)
        exact { h with channel := congrArg Channel.startLink hlink, link := fun _ _ => hlink }
      · cases hp.1
    · exact h
  | strangerSend => exact h
  | network n => exact { h with network := rfl }
  | stop =>
    unfold Run.happen requestStop
    dsimp only
    by_cases hs : s.stop = true
    · rw [if_pos hs, if_pos (h.stop.trans hs)]
      exact h
    · have hs' : ¬r.stop = true := by rwa [h.stop]
      rw [if_neg hs, if_neg hs']
      exact { h with stop := rfl }
  | observe => exact { h with }
  | run =>
    unfold Run.happen
    dsimp only
    rw [start_of_ne_idle h.ne_idle.1, start_of_ne_idle h.ne_idle.2]
    exact { h with }

/-! ## The fresh connection -/

/-- At the end of a pause after a lost connection a fresh one stands beside it. -/
theorem resumes_renewed {server : Address} (hp : p.phase = .pausing server 0 p.now)
    (hr : p.resolve = .ok server) (hs : p.stop = false) : Resumes p (p.renewed.happen .run) p where
  config := rfl
  hasListener := rfl
  hasIntent := rfl
  network := rfl
  resolve := rfl
  host := rfl
  stop := hs
  established := rfl
  phase := by rw [hp]; exact .starting hr
  channel := by simp [Channel.after, Channel.startLink, happen, start, renewed]
  link := fun _ => Phase.noConfusion
  state := rfl
  history := ⟨[], rfl, (List.append_nil _).symm⟩
  calls := ⟨[], (List.append_nil _).symm, .nil⟩

theorem renewed_shows {es : List Event} (hl : (p.renewed.happen .run).Leads es s) :
    s.phase.Shows s.state :=
  ((Leads.start.event .run).trans hl).shows p.renewed_isFresh

/-- What the fresh connection can come to, the one that goes on can come to as well. -/
theorem Resumes.leads (h : Resumes p (p.renewed.happen .run) p) {es : List Event} {s : Run}
    (hl : (p.renewed.happen .run).Leads es s) : ∃ r, p.Leads es r ∧ Resumes p s r := by
  induction hl with
  | start => exact ⟨p, .start, h⟩
  | event _ e ih =>
    obtain ⟨r, hr, h⟩ := ih
    exact ⟨_, hr.event e, h.happen e⟩
  | does hl hd ih =>
    obtain ⟨r, hr, h⟩ := ih
    obtain ⟨r', hd', h'⟩ := hd.follow (h.perform (renewed_shows hl))
    exact ⟨r', hr.does hd', h'⟩
  | @clock es s hl t hn hle ht ih =>
    obtain ⟨r, hr, h⟩ := ih
    have hnr := (step_eq_none_of_rel (h.perform (renewed_shows hl))).1 hn
    refine ⟨_, hr.clock hnr ?_ ?_, h.moveClock t⟩
    · rw [h.now]
      exact Nat.add_le_add_left hle _
    · intro w hw
      rw [h.timer?_eq hn, Option.map_eq_some_iff] at hw
      obtain ⟨w, hw, rfl⟩ := hw
      exact Nat.add_le_add_left (ht w hw) _

/-- What the connection that goes on can come to, the fresh one can come to as well. -/
theorem Resumes.leads_renewed (h : Resumes p (p.renewed.happen .run) p) {es : List Event} {r : Run}
    (hl : p.Leads es r) : ∃ s, (p.renewed.happen .run).Leads es s ∧ Resumes p s r := by
  induction hl with
  | start => exact ⟨_, .start, h⟩
  | event _ e ih =>
    obtain ⟨s, hs, h⟩ := ih
    exact ⟨_, hs.event e, h.happen e⟩
  | does _ hd ih =>
    obtain ⟨s, hs, h⟩ := ih
    obtain ⟨s', hd', h'⟩ := Does.follow_back (h.perform (renewed_shows hs)) hd
    exact ⟨s', hs.does hd', h'⟩
  | @clock es r _ t hn hle ht ih =>
    obtain ⟨s, hs, h⟩ := ih
    have hns := (step_eq_none_of_rel (h.perform (renewed_shows hs))).2 hn
    rw [h.now] at hle
    obtain ⟨k, rfl⟩ := Nat.exists_eq_add_of_le (Nat.le_of_add_right_le hle)
    refine ⟨_, hs.clock hns (Nat.le_of_add_le_add_left hle) ?_, h.moveClock k⟩
    intro w hw
    refine Nat.le_of_add_le_add_left (ht (p.now + w) ?_)
    rw [h.timer?_eq hns, hw, Option.map_some]

end

/-! ## The server that has been found -/

section
variable {r r' : Run}

theorem Change.server? (hc : r.Change r') {server : Address} (h : r'.phase.server? = some server) :
    r.phase.server? = some server ∨ r.resolve = .ok server := by
  have after (r : Run) (server' : Address) (f : Nat)
      (h : (r.afterAttempt server' f).phase.server? = some server) : server' = server := by
    rcases r.afterAttempt_phase server' f with ⟨_, e⟩ | e <;> rw [e] at h <;> cases h
    rfl
  cases hc with
  | resolved hp hs ha => cases h; exact .inr ha
  | unresolved | stopped => cases h
  | fails hp | loses hp => exact .inl (by rw [hp, ← after _ _ _ h]; rfl)
  | begins hp | connects hp | outbound hp | inbound hp | wakes hp =>
    rw [hp]
    exact .inl h

/-- Wherever a connection has a server, it is the one that a look-up finds. -/
theorem Leads.resolve {r₀ : Run} {es : List Event} (h₀ : r₀.IsFresh) (h : r₀.Leads es r)
    {server : Address} (hs : r.phase.server? = some server) : r.resolve = .ok server := by
  induction h with
  | start => rw [h₀.phase] at hs; cases hs
  | @event es r h e ih =>
    rw [(happen_sameTerms r e).resolve]
    refine ih ?_
    rcases r.happen_phase e with hp | ⟨-, -, hp⟩ <;> rw [hp] at hs
    · exact hs
    · cases hs
  | does _ hd ih =>
    rw [hd.change.sameTerms.resolve]
    rcases hd.change.server? hs with hs | hs
    · exact ih hs
    · exact hs
  | clock _ _ _ _ ih => exact ih hs

end

/-! ## The law of the restart -/

/-- A connected attempt that ends unasked is followed by a pause. -/
theorem Does.pauses {r r₁ : Run} {a : Attempt} (hd : r.Does r₁) (ha : r.phase = .pumping a)
    (hn : r.config.maxAttempts ≠ 0) (hs : r.stop = false) (hend : ∀ b, r₁.phase ≠ .pumping b) :
    r₁.state = .reconnecting 0 ∧
      r₁.phase = .pausing a.server 0 (r.now + r.config.retryInterval.toNat) := by
  cases hd.change with
  | outbound | inbound => exact absurd rfl (hend _)
  | @loses b o i ok host log hp =>
    rw [ha] at hp
    cases hp
    rcases (r.afterClose a.device ok host log).afterAttempt_cases a.server 0 with
      ⟨hs', -⟩ | ⟨-, hle, -⟩ | ⟨-, -, e⟩
    · rw [show (r.afterClose _ _ _ _).stop = r.stop from rfl, hs] at hs'
      cases hs'
    · exact absurd (UInt32.toNat_inj.1 (Nat.le_zero.1 hle)) hn
    · rw [e, r.afterClose_now]
      exact ⟨rfl, rfl⟩
  | stopped hp =>
    rw [ha] at hp
    rcases hp with hp | ⟨_, _, hp⟩ | ⟨_, _, _, hp⟩ <;> cases hp
  | resolved hp | unresolved hp | begins hp | fails hp | connects hp | wakes hp =>
    rw [ha] at hp
    cases hp

/-- When a connected attempt is lost and no stop was requested, the connection pauses. From the end
of the pause on it can do what a fresh connection can that is started at that moment in the
surroundings as they are then, and nothing else: no matter what has happened in or before the lost
attempt, and whatever but a stop happens in the pause. -/
theorem Leads.restarts_afresh {r₀ r r₁ : Run} {es : List Event} {a : Attempt} (h₀ : r₀.IsFresh)
    (hn : r₀.config.maxAttempts ≠ 0) (h : r₀.Leads es r) (ha : r.phase = .pumping a)
    (hs : r.stop = false) (hd : r.Does r₁) (hend : ∀ b, r₁.phase ≠ .pumping b) :
    r₁.now = r.now ∧ r₁.state = .reconnecting 0 ∧
    r₁.phase = .pausing a.server 0 (r.now + r.config.retryInterval.toNat) ∧
    ∀ es₁ p, r₁.Leads es₁ p → .stop ∉ es₁ → p.phase = r₁.phase →
      p.now = r.now + r.config.retryInterval.toNat →
      p.renewed.IsFresh ∧
      (∀ es₂ r₂, p.Leads es₂ r₂ →
        ∃ s, (p.renewed.happen .run).Leads es₂ s ∧ Continues p s r₂) ∧
      (∀ es₂ s, (p.renewed.happen .run).Leads es₂ s → ∃ r₂, p.Leads es₂ r₂ ∧ Continues p s r₂) := by
  obtain ⟨hstate, hphase⟩ := hd.pauses ha (by rw [h.sameTerms.config]; exact hn) hs hend
  refine ⟨hd.change.now, hstate, hphase, ?_⟩
  intro es₁ p hp hns hpause hwake
  rw [hphase, ← hwake] at hpause
  have hresolve : p.resolve = .ok a.server :=
    ((h.does hd).trans hp).resolve h₀ (by rw [hpause]; rfl)
  have hstop : p.stop = false := by
    rw [Bool.eq_false_iff]
    intro ht
    rcases hp.stop.1 ht with ht | hmem
    · rw [hd.change.stop, hs] at ht
      cases ht
    · exact hns hmem
  have hresumes := resumes_renewed hpause hresolve hstop
  refine ⟨p.renewed_isFresh, ?_, ?_⟩
  · intro es₂ r₂ hr₂
    obtain ⟨s, hs, hrel⟩ := hresumes.leads_renewed hr₂
    exact ⟨s, hs, hrel.continues⟩
  · intro es₂ s hs
    obtain ⟨r₂, hr₂, hrel⟩ := hresumes.leads hs
    exact ⟨r₂, hr₂, hrel.continues⟩

/-- The small run when its connection is about to be given up. -/
def trialLosing : Run := (trialPumping.moveClock 100).settleWithin 3

/-- The small run at the end of the pause after that. -/
def trialPaused : Run := ((trialLosing.settleWithin 1).happen (.push [71])).moveClock 110

/-- In the small run the second attempt goes as the first one of a fresh connection, which the host
refuses as well. -/
theorem trialPaused_restarts : trialPaused.renewed.IsFresh ∧
    ∃ s, (trialPaused.renewed.happen .run).Leads [] s ∧
      Continues trialPaused s (trialPaused.settleWithin 9) ∧
      s.result? = some (.error (.attemptsExhausted 1)) ∧ s.now = 0 := by
  have hl : trial.Leads (.run :: trialEvents) trialLosing := by
    have hl := trial_leads_connected.trans trialConnected_leads
    exact (hl.clock rfl (by decide) (le_timer (s := 100) rfl (Nat.le_refl _))).settleWithin 3
  have hp : (trialLosing.settleWithin 1).Leads [.push [71]] trialPaused :=
    (Leads.start.event (.push [71])).clock rfl (by decide)
      (le_timer (s := 110) rfl (Nat.le_refl _))
  have hend (b : Attempt) : (trialLosing.settleWithin 1).phase ≠ .pumping b := nofun
  obtain ⟨-, -, -, hlaw⟩ := hl.restarts_afresh trial_isFresh (by decide) rfl rfl
    (does_of_step rfl) hend
  obtain ⟨hfresh, hcontinues, -⟩ := hlaw _ _ hp (by simp) rfl rfl
  obtain ⟨s, hs, hrel⟩ := hcontinues [] _ (Leads.start.settleWithin 9)
  have hnow : 110 = 110 + s.now := hrel.now
  exact ⟨hfresh, s, hs, hrel, hrel.result.symm.trans rfl, by omega⟩

end Run

end TunnelRelay.Relay
