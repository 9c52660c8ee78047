import TunnelRelay.Proofs.Attempts
import TunnelRelay.Proofs.Pumps
/-!
# What one step of a connection changes

`Run.Change` lists the changes that a step can make, as values: what is called and published, and
where the supervisor stands afterwards. Invariants of a run are shown over these cases
(`Does.change`) and not over the functions that make the step. `rests_of_step` says where a
connection whose pumps run can make no step.
-/

namespace TunnelRelay.Relay.Run

open Net

/-! ## After an attempt -/

section
variable (r : Run) (server : Address) (f : Nat)

theorem afterAttempt_cases :
    (r.stop = true ∧ ∃ log, r.afterAttempt server f = { r with log := log }.finish (.ok ())) ∨
    (r.stop = false ∧ r.config.maxAttempts.toNat ≤ f ∧
      ∃ log, r.afterAttempt server f = { r with log := log }.finish (.error (.attemptsExhausted f))) ∨
    (r.stop = false ∧ f < r.config.maxAttempts.toNat ∧ r.afterAttempt server f =
      { r.publish (.reconnecting f) with
        phase := .pausing server f (r.now + r.config.retryInterval.toNat) }) := by
  unfold afterAttempt
  split
  · rename_i hs; exact .inl ⟨hs, _, rfl⟩
  · rename_i hs
    simp only [Bool.not_eq_true] at hs
    split
    · rename_i hn; exact .inr (.inl ⟨hs, hn, _, rfl⟩)
    · rename_i hn; exact .inr (.inr ⟨hs, by omega, rfl⟩)

/-- What follows an attempt concerns the state, the phase and the log only. -/
theorem afterAttempt_eq : ∃ state history log phase, r.afterAttempt server f =
    { r with state := state, history := history, log := log, phase := phase } := by
  rcases r.afterAttempt_cases server f with ⟨-, log, h⟩ | ⟨-, -, log, h⟩ | ⟨-, -, h⟩ <;>
    exact ⟨_, _, _, _, h⟩

@[simp] theorem afterAttempt_config : (r.afterAttempt server f).config = r.config := by
  obtain ⟨_, _, _, _, h⟩ := r.afterAttempt_eq server f; rw [h]

@[simp] theorem afterAttempt_hasListener : (r.afterAttempt server f).hasListener = r.hasListener := by
  obtain ⟨_, _, _, _, h⟩ := r.afterAttempt_eq server f; rw [h]

@[simp] theorem afterAttempt_names : (r.afterAttempt server f).names = r.names := by
  obtain ⟨_, _, _, _, h⟩ := r.afterAttempt_eq server f; rw [h]

@[simp] theorem afterAttempt_host : (r.afterAttempt server f).host = r.host := by
  obtain ⟨_, _, _, _, h⟩ := r.afterAttempt_eq server f; rw [h]

@[simp] theorem afterAttempt_channel : (r.afterAttempt server f).channel = r.channel := by
  obtain ⟨_, _, _, _, h⟩ := r.afterAttempt_eq server f; rw [h]

@[simp] theorem afterAttempt_established :
    (r.afterAttempt server f).established = r.established := by
  obtain ⟨_, _, _, _, h⟩ := r.afterAttempt_eq server f; rw [h]

@[simp] theorem afterAttempt_stop : (r.afterAttempt server f).stop = r.stop := by
  obtain ⟨_, _, _, _, h⟩ := r.afterAttempt_eq server f; rw [h]

@[simp] theorem afterAttempt_calls : (r.afterAttempt server f).calls = r.calls := by
  obtain ⟨_, _, _, _, h⟩ := r.afterAttempt_eq server f; rw [h]

end

/-- Where the supervisor stands after an attempt. -/
theorem afterAttempt_phase (r : Run) (server : Address) (f : Nat) :
    (∃ result, (r.afterAttempt server f).phase = .done result) ∨
      (r.afterAttempt server f).phase =
        .pausing server f (r.now + r.config.retryInterval.toNat) := by
  rcases r.afterAttempt_cases server f with ⟨-, log, h⟩ | ⟨-, -, log, h⟩ | ⟨-, -, h⟩ <;> rw [h]
  · exact .inl ⟨_, rfl⟩
  · exact .inl ⟨_, rfl⟩
  · exact .inr rfl

theorem afterAttempt_ne_pumping (r : Run) (server : Address) (f : Nat) (a : Attempt) :
    (r.afterAttempt server f).phase ≠ .pumping a := by
  rcases r.afterAttempt_phase server f with ⟨_, h⟩ | h <;> rw [h] <;> exact Phase.noConfusion

/-! ## The end of an attempt -/

/-- A run after its interface was closed. -/
def afterClose (r : Run) (device : String) (ok : Bool) (host : HostScript) (log : List LogEvent) :
    Run :=
  { r.afterCalls [.close device ok] host log with
    channel := if r.hasDescriptor then r.channel.discard else r.channel }

/-- What is logged when an interface cannot be closed. -/
def closeWarning (time : Nat) (device : String) : LogEvent :=
  ⟨time, .warn, attemptTarget, true, "Unable to close interface",
    [("device", .text device), ("error", .text "interface close failed")]⟩

theorem takeClose_auxiliary (h : HostScript) : h.takeClose.2.auxiliary = h.auxiliary := by
  unfold HostScript.takeClose; split <;> rfl

theorem closeInterface_eq (r : Run) (device : String) : r.closeInterface device =
    r.afterClose device r.host.takeClose.1 r.host.takeClose.2
      (if r.host.takeClose.1 then r.log else r.log ++ [closeWarning r.now device]) := by
  unfold closeInterface
  generalize r.host.takeClose = t
  obtain ⟨ok, host⟩ := t
  dsimp only
  generalize hr₁ : Run.call _ _ = r₁
  have hd : r₁.hasDescriptor = r.hasDescriptor := by rw [← hr₁]; rfl
  rw [hd]
  unfold afterClose
  subst hr₁
  cases ok <;> cases r.hasDescriptor <;> rfl

theorem reportPump_eq (r : Run) (direction : String) (result : Except Error PumpStats) :
    ∃ log, r.reportPump direction result = { r with log := log } := by
  unfold reportPump
  split <;> exact ⟨_, rfl⟩

/-- However its pumps have ended, an attempt closes its interface and is over. -/
theorem tearDown_eq (r : Run) (a : Attempt) (o i : Except Error PumpStats) : ∃ ok host log,
    host.auxiliary = r.host.auxiliary ∧
      r.tearDown a o i = (r.afterClose a.device ok host log).afterAttempt a.server 0 := by
  unfold tearDown
  obtain ⟨log₁, h₁⟩ := (r.closeInterface a.device).reportPump_eq "outbound" o
  rw [h₁]
  obtain ⟨log₂, h₂⟩ := reportPump_eq { r.closeInterface a.device with log := log₁ } "inbound" i
  rw [h₂, closeInterface_eq]
  exact ⟨_, _, log₂, takeClose_auxiliary r.host, rfl⟩

/-! ## The changes -/

/-- The changes that one step can make. -/
inductive Change (r : Run) : Run → Prop
  /-- The server is looked up. -/
  | resolved {a : Address} {log : List LogEvent} (hp : r.phase = .starting) (hs : r.stop = false)
    (ha : r.resolve = .ok a) : Change r { r with log := log, phase := .opening a 0 }
  | unresolved {e : Error} {log : List LogEvent} (hp : r.phase = .starting) (hs : r.stop = false)
    (he : r.resolve = .error e) : Change r ({ r with log := log }.finish (.error e))
  /-- The stop is seen where no attempt is under way. -/
  | stopped {log : List LogEvent} (hp : r.phase = .starting ∨
      (∃ server f, r.phase = .opening server f) ∨ ∃ server f wake, r.phase = .pausing server f wake)
    (hs : r.stop = true) : Change r ({ r with log := log }.finish (.ok ()))
  | begins {server : Address} {f : Nat} (hp : r.phase = .opening server f) (hs : r.stop = false) :
    Change r { r.publish (.connecting (f + 1)) with phase := .attempting server f }
  /-- The attempt gets no interface. -/
  | fails {server : Address} {f : Nat} {c : Course} {host : HostScript} {log : List LogEvent}
    (hp : r.phase = .attempting server f) (hc : c.device? = none)
    (hh : c.popped ++ host.sockets = r.host.sockets) :
    Change r ((r.afterCalls (c.opening r.hasListener r.hasDescriptor) host log).afterAttempt
      server (f + 1))
  /-- The attempt gets its interface. -/
  | connects {server : Address} {f : Nat} {c : Course} {host : HostScript} {log : List LogEvent}
    (hp : r.phase = .attempting server f) (hc : c.device? = some r.nextDevice)
    (ho : c.openDevice? = some r.nextDevice) (hh : c.popped ++ host.sockets = r.host.sockets) :
    Change r { (r.afterCalls (c.opening r.hasListener r.hasDescriptor) host log).publish .connected with
      established := r.established + 1
      channel := r.channel.startLink
      phase := .pumping ⟨server, r.nextDevice, false, false, {}, { lastReceived := r.now }⟩ }
  | outbound {a : Attempt} {o : Outbound} {c : Channel} (hp : r.phase = .pumping a)
    (hm : a.outbound.Moves (r.stop || a.stop) r.config.idleInterval.toNat r.channel o c) :
    Change r { r with
      channel := c
      phase := .pumping
        { a with outbound := o, stopInbound := a.stopInbound || o.result?.isSome } }
  | inbound {a : Attempt} {i : Inbound} {c : Channel} (hp : r.phase = .pumping a)
    (hm : a.inbound.Moves (r.stop || a.stop || a.stopInbound) r.inboundConfig r.channel i c) :
    Change r { r with
      channel := c, phase := .pumping { a with inbound := i, stop := a.stop || i.hasFailed } }
  /-- The attempt loses its connection or is stopped. -/
  | loses {a : Attempt} {o i : Except Error PumpStats} {ok : Bool} {host : HostScript}
    {log : List LogEvent} (hp : r.phase = .pumping a) (ho : a.outbound.result? = some o)
    (hi : a.inbound.result? = some i) (hh : host.auxiliary = r.host.auxiliary) :
    Change r ((r.afterClose a.device ok host log).afterAttempt a.server 0)
  | wakes {server : Address} {f wake : Nat} (hp : r.phase = .pausing server f wake)
    (hs : r.stop = false) (hw : wake ≤ r.now) : Change r { r with phase := .opening server f }

/-- A step makes one of the changes. -/
theorem Does.change {r r' : Run} (h : r.Does r') : r.Change r' := by
  cases h with
  | lookUp hp =>
    unfold Run.lookUp
    dsimp only
    split
    · rename_i hs; exact .stopped (.inl hp) hs
    · rename_i hs
      simp only [Bool.not_eq_true] at hs
      split
      · rename_i e he; exact .unresolved hp hs he
      · rename_i a ha; exact .resolved hp hs ha
  | @beginAttempt server f hp =>
    unfold Run.beginAttempt
    split
    · rename_i hs; exact .stopped (.inr (.inl ⟨server, f, hp⟩)) hs
    · rename_i hs; exact .begins hp (by simpa using hs)
  | @openAttempt server f hp =>
    obtain ⟨c, host, log, hh, ⟨hc, e⟩ | ⟨hc, ho, e⟩⟩ := r.openAttempt_cases server f <;> rw [e]
    · exact .fails hp hc hh
    · exact .connects hp hc ho hh
  | @outbound a r' hp h =>
    unfold outboundStep at h
    split at h
    · cases h
    · rename_i hm; cases h; exact .outbound hp (Outbound.moves_of_step hm)
  | @inbound a r' hp h =>
    unfold inboundStep at h
    split at h
    · cases h
    · rename_i hm; cases h; exact .inbound hp (Inbound.moves_of_step hm)
  | @tearDown a o i hp ho hi =>
    obtain ⟨ok, host, log, hh, e⟩ := r.tearDown_eq a o i
    rw [e]
    exact .loses hp ho hi hh
  | @stopPause server f wake hp hs => exact .stopped (.inr (.inr ⟨server, f, wake, hp⟩)) hs
  | wake hp hs hw => exact .wakes hp hs hw

/-! ## Where no change is made -/

section
variable {r : Run} {a : Attempt}

theorem outboundStep_eq_none_iff : r.outboundStep a = none ↔
    a.outbound.step (r.stop || a.stop) r.config.idleInterval.toNat r.channel = none := by
  unfold outboundStep
  split <;> simp [*]

theorem inboundStep_eq_none_iff : r.inboundStep a = none ↔
    a.inbound.step (r.stop || a.stop || a.stopInbound) r.inboundConfig r.channel = none := by
  unfold inboundStep
  split <;> simp [*]

theorem join_eq_none_iff :
    r.join a = none ↔ a.outbound.result? = none ∨ a.inbound.result? = none := by
  unfold join
  cases a.outbound.result? <;> cases a.inbound.result? <;> simp

/-- A connection whose pumps run can do nothing exactly if neither pump can and one has not ended. -/
theorem step_eq_none_iff (hp : r.phase = .pumping a) :
    r.step = none ↔ r.outboundStep a = none ∧ r.inboundStep a = none ∧ r.join a = none := by
  unfold step
  rw [hp]
  dsimp only
  unfold pumpStep
  cases r.outboundStep a <;> cases r.inboundStep a <;> simp

theorem rests_of_step (hp : r.phase = .pumping a) (h : r.step = none) :
    a.outbound.Rests (r.stop || a.stop) r.channel ∧
    a.inbound.Rests (r.stop || a.stop || a.stopInbound) r.inboundConfig r.channel ∧
    (a.outbound.result? = none ∨ a.inbound.result? = none) := by
  obtain ⟨ho, hi, hj⟩ := (step_eq_none_iff hp).1 h
  exact ⟨Outbound.rests_of_step (outboundStep_eq_none_iff.1 ho),
    Inbound.rests_of_step (inboundStep_eq_none_iff.1 hi), join_eq_none_iff.1 hj⟩

/-- The timer of a connection whose pumps run is that of one of its pumps. -/
theorem timer?_cases {w : Nat} (hp : r.phase = .pumping a) (hw : r.timer? = some w) :
    a.outbound.timer? = some w ∨ a.inbound.timer? r.inboundConfig r.channel = some w := by
  unfold timer? at hw
  rw [hp] at hw
  dsimp only at hw
  split at hw
  · rename_i s t ho hi
    cases hw
    rcases Nat.le_total s t with h | h
    · rw [Nat.min_eq_left h]; exact .inl ho
    · rw [Nat.min_eq_right h]; exact .inr hi
  · rename_i s ho _
    cases hw
    exact .inl ho
  · exact .inr hw

/-- It is no later than that of the outbound pump. -/
theorem timer?_le_outbound {s : Nat} (hp : r.phase = .pumping a) (ho : a.outbound.timer? = some s) :
    ∃ w, r.timer? = some w ∧ w ≤ s := by
  unfold timer?
  rw [hp]
  dsimp only
  rw [ho]
  cases a.inbound.timer? r.inboundConfig r.channel with
  | none => exact ⟨s, rfl, Nat.le_refl _⟩
  | some t => exact ⟨_, rfl, Nat.min_le_left _ _⟩

/-- Nor is it later than that of the inbound pump. -/
theorem timer?_le_inbound {t : Nat} (hp : r.phase = .pumping a)
    (hi : a.inbound.timer? r.inboundConfig r.channel = some t) :
    ∃ w, r.timer? = some w ∧ w ≤ t := by
  unfold timer?
  rw [hp]
  dsimp only
  rw [hi]
  cases a.outbound.timer? with
  | none => exact ⟨t, rfl, Nat.le_refl _⟩
  | some s => exact ⟨_, rfl, Nat.min_le_right _ _⟩

end

/-! ## What no change touches -/

/-- The terms of a connection: nothing that happens changes them. -/
structure SameTerms (r r' : Run) : Prop where
  config : r'.config = r.config
  hasListener : r'.hasListener = r.hasListener
  names : r'.names = r.names
  mode : r'.channel.wire.mode = r.channel.wire.mode

theorem SameTerms.trans {r r' r'' : Run} (h : r.SameTerms r') (h' : r'.SameTerms r'') :
    r.SameTerms r'' :=
  ⟨h'.config.trans h.config, h'.hasListener.trans h.hasListener, h'.names.trans h.names,
    h'.mode.trans h.mode⟩

theorem SameTerms.hasDescriptor {r r' : Run} (h : r.SameTerms r') :
    r'.hasDescriptor = r.hasDescriptor := by
  rw [Run.hasDescriptor, h.mode, Run.hasDescriptor]

theorem SameTerms.resolve {r r' : Run} (h : r.SameTerms r') : r'.resolve = r.resolve := by
  rw [Run.resolve, h.config, h.names, Run.resolve]

theorem SameTerms.afterAttempt {r r' : Run} (h : r.SameTerms r') (server : Address) (f : Nat) :
    r.SameTerms (r'.afterAttempt server f) :=
  ⟨by simpa using h.config, by simpa using h.hasListener, by simpa using h.names,
    by simpa using h.mode⟩

theorem afterClose_sameTerms (r : Run) (device : String) (ok : Bool) (host : HostScript)
    (log : List LogEvent) : r.SameTerms (r.afterClose device ok host log) :=
  ⟨rfl, rfl, rfl, by unfold afterClose; dsimp only; split <;> rfl⟩

@[simp] theorem afterClose_now (r : Run) (device : String) (ok : Bool) (host : HostScript)
    (log : List LogEvent) : (r.afterClose device ok host log).now = r.now := by
  simp only [Run.now, afterClose]; split <;> rfl

theorem Change.sameTerms {r r' : Run} (h : r.Change r') : r.SameTerms r' := by
  cases h with
  | resolved | unresolved | stopped | begins | connects | wakes => exact ⟨rfl, rfl, rfl, rfl⟩
  | fails =>
    refine SameTerms.afterAttempt ?_ _ _
    exact ⟨rfl, rfl, rfl, rfl⟩
  | outbound hp hm => exact ⟨rfl, rfl, rfl, hm.mode⟩
  | inbound hp hm => exact ⟨rfl, rfl, rfl, hm.mode⟩
  | loses => exact (r.afterClose_sameTerms _ _ _ _).afterAttempt _ _

theorem Change.now {r r' : Run} (h : r.Change r') : r'.now = r.now := by
  cases h with
  | resolved | unresolved | stopped | begins | connects | wakes => rfl
  | fails => simp [Run.now, afterCalls]
  | outbound hp hm => exact hm.now
  | inbound hp hm => exact hm.now
  | @loses a _ _ ok host log =>
    rw [← r.afterClose_now a.device ok host log, Run.now, afterAttempt_channel, Run.now]

theorem Change.stop {r r' : Run} (h : r.Change r') : r'.stop = r.stop := by
  cases h with
  | fails | loses => rw [afterAttempt_stop]; rfl
  | _ => rfl

theorem happen_sameTerms (r : Run) (e : Event) : r.SameTerms (r.happen e) :=
  ⟨happen_config r e, happen_hasListener r e, happen_names r e, happen_mode r e⟩

theorem Leads.sameTerms {r r' : Run} {es : List Event} (h : r.Leads es r') : r.SameTerms r' := by
  induction h with
  | start => exact ⟨rfl, rfl, rfl, rfl⟩
  | event _ e ih => exact ih.trans (happen_sameTerms _ e)
  | does _ hd ih => exact ih.trans hd.change.sameTerms
  | clock _ hn hle ht ih => exact ih.trans ⟨rfl, rfl, rfl, rfl⟩

/-- The stop is requested once it was among the events, and not before. -/
theorem Leads.stop {r r' : Run} {es : List Event} (h : r.Leads es r') :
    r'.stop = true ↔ r.stop = true ∨ .stop ∈ es := by
  induction h with
  | start => simp
  | event _ e ih => rw [happen_stop, ih, List.mem_append, List.mem_singleton, or_assoc, @eq_comm _ e]
  | does _ hd ih => rw [hd.change.stop, ih]
  | clock _ hn hle ht ih => exact ih

/-! ## As long as one attempt runs -/

/-- As long as the attempt runs that got the last of `n` interfaces, `P` holds of its pumps and the
channel. The number of interfaces established tells attempts apart. -/
def Within (n : Nat) (P : Outbound → Inbound → Channel → Prop) (r : Run) : Prop :=
  n ≤ r.established ∧
    ∀ a, r.phase = .pumping a → r.established = n → P a.outbound a.inbound r.channel

section
variable {n : Nat} {P P' : Outbound → Inbound → Channel → Prop} {r r' : Run}

/-- What the steps of both pumps keep holds on. -/
theorem Within.change (h : r.Within n P) (hc : r.Change r')
    (hout : ∀ (a : Attempt) (o : Outbound) (c : Channel),
      a.outbound.Moves (r.stop || a.stop) r.config.idleInterval.toNat r.channel o c →
      P a.outbound a.inbound r.channel → P o a.inbound c)
    (hin : ∀ (a : Attempt) (i : Inbound) (c : Channel),
      a.inbound.Moves (r.stop || a.stop || a.stopInbound) r.inboundConfig r.channel i c →
      P a.outbound a.inbound r.channel → P a.outbound i c) : r'.Within n P := by
  obtain ⟨hle, h⟩ := h
  cases hc with
  | resolved | unresolved | stopped | begins | wakes => exact ⟨hle, fun a hp => nomatch hp⟩
  | fails | loses =>
    exact ⟨by rw [afterAttempt_established]; exact hle,
      fun a hp => absurd hp (afterAttempt_ne_pumping _ _ _ _)⟩
  | connects =>
    refine ⟨Nat.le_succ_of_le hle, ?_⟩
    intro a _ he
    have he' : r.established + 1 = n := he
    omega
  | @outbound a o c hp hm =>
    refine ⟨hle, ?_⟩
    intro a' hp' he
    cases hp'
    exact hout a o c hm (h a hp he)
  | @inbound a i c hp hm =>
    refine ⟨hle, ?_⟩
    intro a' hp' he
    cases hp'
    exact hin a i c hm (h a hp he)

/-- An event finds the pumps where they are. -/
theorem Within.happen (h : r.Within n P) (e : Event)
    (he : ∀ a, r.phase = .pumping a → P a.outbound a.inbound r.channel →
      P' a.outbound a.inbound (r.happen e).channel) : (r.happen e).Within n P' := by
  obtain ⟨hle, h⟩ := h
  unfold Within
  rw [happen_established]
  refine ⟨hle, ?_⟩
  intro a hp hest
  have hp₀ := phase_of_happen hp
  exact he a hp₀ (h a hp₀ hest)

end

end TunnelRelay.Relay.Run
