import TunnelRelay.Proofs.Instants
import TunnelRelay.Proofs.Signals
import TunnelRelay.Relay.InboundRun
/-!
# Runs of an inbound pump by itself

`InboundRun.Leads` is a run of a pump: events happen at any moment, the pump does what it can, and
time passes only when nothing can be done, never beyond the timer of the pump. The label of a run
lists its events with their times and says when and how the pump has ended. `InboundRun.Does` is one
step of the pump; a step that ends it by a failure also requests the signal of the attempt.

Each instant of a pump with a keepalive interval comes to rest, so every timeline of events has a
run, and the executed one is one of them (`playUntil_reaches`).
-/

namespace TunnelRelay.Relay

/-- The datagram that an event brings, if the server's port is open. -/
def InboundEvent.datagram? : InboundEvent → Option Packet
  | .serverSend p => some p
  | _ => none

/-- Whether an event leaves the server's port as it is. -/
def InboundEvent.keepsServer : InboundEvent → Bool
  | .serverClose => false
  | _ => true

section
variable {stop : Bool} {config : InboundConfig} {i i' : Inbound} {c c' : Channel}

theorem Inbound.Moves.serverOpen (h : i.Moves stop config c i' c') :
    c'.serverOpen = c.serverOpen := by
  cases h <;> rfl

/-- How a step can end a pump, and with what result. -/
inductive Inbound.Ends (stop : Bool) (config : InboundConfig) (i : Inbound) (c : Channel) :
    Except Error PumpStats → Prop
  | stopped (hs : stop = true) : Ends stop config i c (.ok i.stats)
  | silent (hs : stop = false) (ht : i.lastReceived + config.receiveTimeout ≤ c.now) :
    Ends stop config i c (.error (.serverGone config.receiveTimeout))
  | refused (hr : c.transport.isRefused = true) : Ends stop config i c (.error Channel.refusal)
  | writeFailed (hf : c.wire.failingWrites ≠ 0) :
    Ends stop config i c (.error Channel.writeFailure)
  | panicked (hw : c.wire.writesPanic = true) : Ends stop config i c (.error (.taskFailed ""))

theorem Inbound.result?_accept (i : Inbound) (p : Packet) (now : Nat) :
    (i.accept p now).result? = none := by
  unfold accept
  split <;> rfl

theorem Inbound.Moves.result?_eq_none (h : i.Moves stop config c i' c') : i.result? = none := by
  unfold Inbound.result?
  cases h with
  | _ hp => rw [hp]

theorem Inbound.Moves.ends (h : i.Moves stop config c i' c') {result : Except Error PumpStats}
    (hr : i'.result? = some result) : i.Ends stop config c result := by
  cases h with
  | stopped _ hs => cases hr; exact .stopped hs
  | silent _ hs ht => cases hr; exact .silent hs ht
  | refused _ _ _ href | pingRefused _ _ href => cases hr; exact .refused href
  | writeFailed _ _ hf => cases hr; exact .writeFailed (by rw [hf]; exact Nat.succ_ne_zero _)
  | panicked _ hw => cases hr; exact .panicked hw
  | received => rw [result?_accept] at hr; cases hr
  | due | written | pinged => cases hr

end

namespace InboundRun

/-! ## One step -/

/-- What one step of a pump leaves behind. -/
structure Does (r r' : InboundRun) : Prop where
  moves : r.pump.Moves (r.signals.isRequested r.own) r.config r.channel r'.pump r'.channel
  config : r'.config = r.config
  attempt : r'.attempt = r.attempt
  own : r'.own = r.own
  signals : r'.signals = if r'.pump.hasFailed then r.signals.request r.attempt else r.signals
  requestedAt : r'.requestedAt = if r'.pump.hasFailed ∧ r'.attemptRequested ∧ r.requestedAt = none
    then some r.now else r.requestedAt

section
variable (r : InboundRun) (i : Nat)

/-- A request reaches the signals, and what is remembered about that of the attempt. -/
theorem request_eq : r.request i = { r with
    signals := r.signals.request i
    requestedAt := if (r.signals.request i).isRequested r.attempt ∧ r.requestedAt = none
      then some r.now else r.requestedAt } := by
  unfold request noteRequest attemptRequested
  dsimp only
  split <;> rfl

/-- The pump of an attempt has a signal of its own under that of the attempt. -/
theorem spawn_eq (f : SignalForest) (attempt : Nat) (config : InboundConfig) (c : Channel) :
    spawn f attempt config c = {
      config, attempt, channel := c, pump := { lastReceived := c.now }
      signals := (f.child attempt).1, own := f.signals.length
      requestedAt := if (f.child attempt).1.isRequested attempt then some c.now else none } := by
  unfold spawn noteRequest attemptRequested
  simp only [and_true]
  split <;> rfl

/-- An event reaches the surroundings, the signals and what is remembered of them. -/
theorem happen_eq (e : InboundEvent) : ∃ channel signals requestedAt views, r.happen e =
    { r with
      channel := channel, signals := signals, requestedAt := requestedAt, views := views } ∧
    channel.now = r.now ∧ channel.sent = r.channel.sent ∧
    channel.delivered = r.channel.delivered ∧ channel.wire.isFull = r.channel.wire.isFull ∧
    channel.wire.writesPanic = r.channel.wire.writesPanic ∧
    channel.transport.isFull = r.channel.transport.isFull := by
  cases e with
  | serverSend p =>
    simp only [happen]
    split <;> exact ⟨_, _, _, _, rfl, rfl, rfl, rfl, rfl, rfl, rfl⟩
  | stop | stopAttempt | request =>
    simp only [happen, request_eq]
    exact ⟨_, _, _, _, rfl, rfl, rfl, rfl, rfl, rfl, rfl⟩
  | strangerSend | serverClose | writeError | markSent | observe =>
    exact ⟨_, _, _, _, rfl, rfl, rfl, rfl, rfl, rfl, rfl⟩

variable (e : InboundEvent)

@[simp] theorem happen_now : (r.happen e).now = r.now := by
  obtain ⟨_, _, _, _, h, hn, -⟩ := r.happen_eq e
  rw [h]
  exact hn

@[simp] theorem happen_pump : (r.happen e).pump = r.pump := by
  obtain ⟨_, _, _, _, h, -⟩ := r.happen_eq e
  rw [h]

@[simp] theorem happen_config : (r.happen e).config = r.config := by
  obtain ⟨_, _, _, _, h, -⟩ := r.happen_eq e
  rw [h]

@[simp] theorem happen_attempt : (r.happen e).attempt = r.attempt := by
  obtain ⟨_, _, _, _, h, -⟩ := r.happen_eq e
  rw [h]

@[simp] theorem happen_own : (r.happen e).own = r.own := by
  obtain ⟨_, _, _, _, h, -⟩ := r.happen_eq e
  rw [h]

end

variable {r₀ r r' r'' : InboundRun} {es es' : List (Nat × InboundEvent)}
  {ending? ending?' : Option (Nat × Except Error PumpStats)}

theorem does_of_step (h : r.step = some r') : r.Does r' := by
  unfold step at h
  split at h
  · cases h
  · rename_i pump channel hs
    have hm := Inbound.moves_of_step hs
    cases h
    by_cases hf : pump.hasFailed = true
    · simp only [if_pos hf]
      rw [request_eq]
      refine ⟨hm, rfl, rfl, rfl, (if_pos hf).symm, ?_⟩
      simp [hf, attemptRequested, InboundRun.now, hm.now]
    · simp only [if_neg hf]
      exact ⟨hm, rfl, rfl, rfl, (if_neg hf).symm, by simp [hf]⟩

theorem step_eq_none_iff :
    r.step = none ↔ r.pump.step (r.signals.isRequested r.own) r.config r.channel = none := by
  unfold step
  cases r.pump.step (r.signals.isRequested r.own) r.config r.channel <;> simp

theorem Does.now (h : r.Does r') : r'.now = r.now := h.moves.now

/-! ## Runs -/

/-- From `r₀` a pump can come to `r`, with the events `es` on the way, each at its time. The pump
has ended as `ending?` says: when, and with what result. -/
inductive Leads (r₀ : InboundRun) :
    List (Nat × InboundEvent) → Option (Nat × Except Error PumpStats) → InboundRun → Prop
  | start : Leads r₀ [] none r₀
  | event {es : List (Nat × InboundEvent)} {ending? : Option (Nat × Except Error PumpStats)}
    {r : InboundRun} (h : Leads r₀ es ending? r) (e : InboundEvent) :
    Leads r₀ (es ++ [(r.now, e)]) ending? (r.happen e)
  | step {es : List (Nat × InboundEvent)} {ending? : Option (Nat × Except Error PumpStats)}
    {r r' : InboundRun} (h : Leads r₀ es ending? r) (hs : r.step = some r')
    (hn : r'.pump.result? = none) : Leads r₀ es ending? r'
  | finish {es : List (Nat × InboundEvent)} {ending? : Option (Nat × Except Error PumpStats)}
    {r r' : InboundRun} (h : Leads r₀ es ending? r) (hs : r.step = some r')
    {x : Except Error PumpStats} (hx : r'.pump.result? = some x) : Leads r₀ es (some (r.now, x)) r'
  | clock {es : List (Nat × InboundEvent)} {ending? : Option (Nat × Except Error PumpStats)}
    {r : InboundRun} (h : Leads r₀ es ending? r) {t : Nat} (hn : r.step = none) (hle : r.now ≤ t)
    (ht : ∀ w, r.timer? = some w → t ≤ w) : Leads r₀ es ending? (r.moveClock t)

theorem Leads.trans (h : r₀.Leads es ending? r) (h' : r.Leads es' ending?' r') :
    r₀.Leads (es ++ es') (ending?'.or ending?) r' := by
  induction h' with
  | start =>
    rw [List.append_nil]
    exact h
  | event _ e ih =>
    rw [← List.append_assoc]
    exact ih.event e
  | step _ hs hn ih => exact ih.step hs hn
  | finish _ hs hx ih => exact ih.finish hs hx
  | clock _ hn hle ht ih => exact ih.clock hn hle ht

/-- Events may happen one after another before the pump reacts to any of them. -/
theorem Leads.events (h : r₀.Leads es ending? r) (l : List InboundEvent) :
    r₀.Leads (es ++ l.map (Prod.mk r.now)) ending? (l.foldl happen r) ∧
      (l.foldl happen r).now = r.now := by
  induction l generalizing es r with
  | nil =>
    rw [List.map_nil, List.append_nil]
    exact ⟨h, rfl⟩
  | cons e l ih =>
    obtain ⟨hl, hn⟩ := ih (h.event e)
    rw [happen_now, List.append_assoc] at hl
    exact ⟨hl, hn.trans (r.happen_now e)⟩

/-- Whatever the bound, the executed order of steps is a run. -/
theorem Leads.settleWithin (fuel : Nat) (h : r₀.Leads es ending? r) :
    ∃ ending?', r₀.Leads es ending?' (r.settleWithin fuel) ∧ (r.settleWithin fuel).now = r.now := by
  induction fuel generalizing ending? r with
  | zero => exact ⟨ending?, h, rfl⟩
  | succ fuel ih =>
    unfold InboundRun.settleWithin
    split
    · exact ⟨ending?, h, rfl⟩
    · rename_i r' hs
      have hnow := (does_of_step hs).now
      cases hx : r'.pump.result? with
      | none =>
        obtain ⟨ending?', hl, hn⟩ := ih (h.step hs hx)
        exact ⟨ending?', hl, hn.trans hnow⟩
      | some x =>
        obtain ⟨ending?', hl, hn⟩ := ih (h.finish hs hx)
        exact ⟨ending?', hl, hn.trans hnow⟩

/-- No step and no event lets an operation wait or go on, or changes what a write does to the task. -/
theorem Leads.flags (h : r₀.Leads es ending? r) : r.config = r₀.config ∧
    r.channel.wire.isFull = r₀.channel.wire.isFull ∧
    r.channel.transport.isFull = r₀.channel.transport.isFull ∧
    r.channel.wire.writesPanic = r₀.channel.wire.writesPanic := by
  have does {r r' : InboundRun} (hd : r.Does r')
      (ih : r.config = r₀.config ∧ r.channel.wire.isFull = r₀.channel.wire.isFull ∧
        r.channel.transport.isFull = r₀.channel.transport.isFull ∧
        r.channel.wire.writesPanic = r₀.channel.wire.writesPanic) :
      r'.config = r₀.config ∧ r'.channel.wire.isFull = r₀.channel.wire.isFull ∧
        r'.channel.transport.isFull = r₀.channel.transport.isFull ∧
        r'.channel.wire.writesPanic = r₀.channel.wire.writesPanic := by
    obtain ⟨hw, ht, hp⟩ := hd.moves.flags
    exact ⟨hd.config.trans ih.1, hw.trans ih.2.1, ht.trans ih.2.2.1, hp.trans ih.2.2.2⟩
  induction h with
  | start => exact ⟨rfl, rfl, rfl, rfl⟩
  | @event _ _ r _ e ih =>
    obtain ⟨_, _, _, _, he, -, -, -, hw, hp, ht⟩ := r.happen_eq e
    rw [he]
    exact ⟨ih.1, hw.trans ih.2.1, ht.trans ih.2.2.1, hp.trans ih.2.2.2⟩
  | step _ hs _ ih => exact does (does_of_step hs) ih
  | finish _ hs _ ih => exact does (does_of_step hs) ih
  | clock _ _ _ _ ih => exact ih

/-- What a run says of the end of its pump is what the pump has ended with. -/
theorem Leads.result? (h : r₀.Leads es ending? r) (hn : r₀.pump.result? = none) :
    r.pump.result? = ending?.map Prod.snd := by
  induction h with
  | start => exact hn
  | event _ e ih =>
    rw [happen_pump]
    exact ih
  | step _ hs hn' ih =>
    have hold := (does_of_step hs).moves.result?_eq_none
    rw [hn', ← hold]
    exact ih
  | finish _ _ hx => exact hx
  | clock _ _ _ _ ih => exact ih

/-- A pump that can do something has not ended. -/
theorem Leads.ending?_eq_none (h : r₀.Leads es ending? r) (hn : r₀.pump.result? = none)
    (hs : r.step = some r') : ending? = none := by
  have hr := h.result? hn
  rw [(does_of_step hs).moves.result?_eq_none] at hr
  exact Option.map_eq_none_iff.1 hr.symm

/-! ## What arrives -/

/-- The datagrams that reach the socket while these events happen, with their times: all that the
server sends, until its port closes. -/
def arrivals (serverOpen : Bool) (es : List (Nat × InboundEvent)) : List (Nat × Packet) :=
  if serverOpen then
    (es.takeWhile fun e => e.2.keepsServer).filterMap fun e => e.2.datagram?.map (Prod.mk e.1)
  else []

theorem arrivals_nil (serverOpen : Bool) : arrivals serverOpen [] = [] := by
  cases serverOpen <;> rfl

theorem arrivals_concat (serverOpen : Bool) (es : List (Nat × InboundEvent)) (t : Nat)
    (e : InboundEvent) : arrivals serverOpen (es ++ [(t, e)]) = arrivals serverOpen es ++
      if serverOpen && es.all fun e => e.2.keepsServer then
        (e.datagram?.map (Prod.mk t)).toList else [] := by
  cases serverOpen with
  | false => rfl
  | true =>
    simp only [arrivals, if_true, Bool.true_and]
    induction es with
    | nil => cases e <;> rfl
    | cons e' es ih =>
      rw [List.cons_append, List.takeWhile_cons, List.takeWhile_cons, List.all_cons]
      by_cases hk : e'.2.keepsServer = true
      · rw [if_pos hk, if_pos hk, hk, Bool.true_and, List.filterMap_cons, List.filterMap_cons, ih]
        cases e'.2.datagram? <;> rfl
      · rw [if_neg hk, if_neg hk, Bool.eq_false_iff.2 hk]
        rfl

theorem happen_inbox (r : InboundRun) (e : InboundEvent) :
    (r.happen e).channel.transport.inbox = r.channel.transport.inbox ++
      (if r.channel.serverOpen then e.datagram?.toList else []) ∧
    (r.happen e).channel.serverOpen = (r.channel.serverOpen && e.keepsServer) := by
  cases e with
  | serverSend p =>
    simp only [happen]
    split
    · rename_i hs; simp [hs, InboundEvent.datagram?, InboundEvent.keepsServer]
    · rename_i hs; simp [hs, InboundEvent.keepsServer]
  | stop | stopAttempt | request =>
    simp [happen, request_eq, InboundEvent.datagram?, InboundEvent.keepsServer]
  | strangerSend | serverClose | writeError | markSent | observe =>
    simp [happen, Channel.markSent, InboundEvent.datagram?, InboundEvent.keepsServer]

theorem Leads.serverOpen (h : r₀.Leads es ending? r) :
    r.channel.serverOpen = (r₀.channel.serverOpen && es.all fun e => e.2.keepsServer) := by
  induction h with
  | start => simp
  | @event es _ r _ e ih =>
    rw [(r.happen_inbox e).2, ih, List.all_append, Bool.and_assoc]
    simp
  | step _ hs _ ih => exact (does_of_step hs).moves.serverOpen.trans ih
  | finish _ hs _ ih => exact (does_of_step hs).moves.serverOpen.trans ih
  | clock _ _ _ _ ih => exact ih

/-! ## Instants come to rest -/

theorem step_settleWithin : ∀ (fuel : Nat) {r : InboundRun}, 0 < r.config.keepaliveInterval →
    r.pump.rank r.config r.channel < fuel →
    (r.settleWithin fuel).step = none ∧ (r.settleWithin fuel).config = r.config
  | 0, _, _, h => absurd h (Nat.not_lt_zero _)
  | fuel + 1, r, hk, h => by
    unfold InboundRun.settleWithin
    split
    · rename_i hs; exact ⟨hs, rfl⟩
    · rename_i r' hs
      have hd := does_of_step hs
      have hlt := hd.moves.rank_lt hk
      rw [← hd.config] at hk hlt
      obtain ⟨hn, hc⟩ := step_settleWithin fuel hk (Nat.lt_of_lt_of_le (hd.config ▸ hlt)
        (Nat.le_of_lt_succ h))
      exact ⟨hn, hc.trans hd.config⟩

theorem step_settle (hk : 0 < r.config.keepaliveInterval) :
    r.settle.step = none ∧ r.settle.config = r.config :=
  step_settleWithin _ hk (Nat.lt_succ_self _)

/-- The timer of a pump that has nothing to do is in the future. -/
theorem now_lt_timer (hn : r.step = none) {w : Nat} (hw : r.timer? = some w) : r.now < w := by
  rw [step_eq_none_iff] at hn
  unfold timer? Inbound.timer? at hw
  split at hw
  · rename_i hp
    cases hw
    have hk := Inbound.keepaliveDue_of_step hn hp
    cases Inbound.rests_of_step hn with
    | waiting _ _ hlt => exact Nat.lt_min.2 ⟨hlt, Channel.now_lt_keepaliveAt hk⟩
    | ended hp' | panicked hp' | writing hp' | pinging hp' => rw [hp] at hp'; cases hp'
  · cases hw

theorem foldl_happen_config (r : InboundRun) (l : List InboundEvent) :
    (l.foldl happen r).config = r.config := by
  induction l generalizing r with
  | nil => rfl
  | cons e l ih => exact (ih (r.happen e)).trans (r.happen_config e)

/-- An instant is a run to rest, with its events at its time. -/
theorem Leads.instant {t : Nat} (h : r₀.Leads es ending? (r.moveClock t))
    (hk : 0 < r.config.keepaliveInterval) (l : List InboundEvent) : ∃ ending?',
    r₀.Leads (es ++ l.map (Prod.mk t)) ending?' (r.instant t l) ∧ (r.instant t l).step = none ∧
      (r.instant t l).now = t ∧ (r.instant t l).config = r.config := by
  obtain ⟨hl, hn⟩ := h.events l
  have hc : (l.foldl happen (r.moveClock t)).config = r.config := foldl_happen_config _ l
  obtain ⟨hs, hc'⟩ := step_settle (r := l.foldl happen (r.moveClock t)) (hc ▸ hk)
  obtain ⟨ending?', hl', hn'⟩ := hl.settleWithin _
  exact ⟨ending?', hl', hs, hn'.trans hn, hc'.trans hc⟩

/-! ## Against a timeline -/

/-- From `r₀` a pump has come to `r` and rests there: all events of the timeline have happened at
their times, and nothing more is due up to the time `horizon`. -/
structure Reaches (horizon : Nat) (timeline : List (Nat × InboundEvent)) (r₀ r : InboundRun) :
    Prop where
  leads : ∃ ending?, r₀.Leads timeline ending? r
  rests : r.step = none
  now_le : r.now ≤ horizon
  waits : ∀ w, r.timer? = some w → horizon < w

/-- Events of one time are labelled with it. -/
theorem map_mk_snd {due : List (Nat × InboundEvent)} {t : Nat} (h : ∀ e ∈ due, e.1 = t) :
    (due.map Prod.snd).map (Prod.mk t) = due := by
  rw [List.map_map]
  refine (List.map_congr_left ?_).trans (List.map_id due)
  intro e he
  rw [← h e he]
  rfl

/-- The next instant of a pump that rests is in the future, and neither beyond its timer nor beyond
the next event. -/
theorem nextInstant?_spec {timeline : List (Nat × InboundEvent)} {t : Nat} (hs : r.step = none)
    (hlate : ∀ e ∈ timeline, r.now < e.1) (ht : r.nextInstant? timeline = some t) :
    r.now < t ∧ (∀ w, r.timer? = some w → t ≤ w) ∧ ∀ e ∈ timeline.head?, t ≤ e.1 := by
  cases timeline with
  | nil =>
    refine ⟨now_lt_timer hs ht, ?_, by simp⟩
    intro w hw
    rw [nextInstant?, hw] at ht
    cases ht
    exact Nat.le_refl t
  | cons e timeline =>
    have hlt : r.now < e.1 := hlate e List.mem_cons_self
    unfold nextInstant? at ht
    cases hw : r.timer? with
    | none =>
      rw [hw] at ht
      cases ht
      exact ⟨hlt, by simp, by simp⟩
    | some w =>
      rw [hw] at ht
      cases ht
      refine ⟨Nat.lt_min.2 ⟨hlt, now_lt_timer hs hw⟩, ?_, ?_⟩
      · intro w' hw'
        cases hw'
        exact Nat.min_le_right e.1 w
      · intro e' he
        cases he
        exact Nat.min_le_left e.1 w

/-- There is no next instant only if there is neither an event nor a timer. -/
theorem nextInstant?_eq_none {timeline : List (Nat × InboundEvent)}
    (h : r.nextInstant? timeline = none) : timeline = [] ∧ r.timer? = none := by
  cases timeline with
  | nil => exact ⟨rfl, h⟩
  | cons e timeline => cases hw : r.timer? <;> simp [nextInstant?, hw] at h

/-- Where a pump rests, it goes on from instant to instant until all events have happened and
nothing more is due. Each instant is later than the one before, so the bound on their number is not
what ends them. -/
theorem Leads.playFor {horizon : Nat} : ∀ (fuel : Nat) {timeline es : List (Nat × InboundEvent)}
    {ending? : Option (Nat × Except Error PumpStats)} {r : InboundRun}, r₀.Leads es ending? r →
    0 < r.config.keepaliveInterval → r.step = none → timeline.Pairwise (·.1 ≤ ·.1) →
    (∀ e ∈ timeline, r.now < e.1 ∧ e.1 ≤ horizon) → r.now ≤ horizon → horizon < r.now + fuel →
    Reaches horizon (es ++ timeline) r₀ (r.playFor horizon fuel timeline)
  | 0, _, _, _, _, _, _, _, _, _, hle, hfuel => absurd hfuel (Nat.not_lt.2 hle)
  | fuel + 1, timeline, es, ending?, r, h, hk, hs, hsort, htimes, hle, hfuel => by
    unfold InboundRun.playFor
    cases hnext : r.nextInstant? timeline with
    | none =>
      obtain ⟨rfl, hw⟩ := nextInstant?_eq_none hnext
      rw [List.append_nil]
      refine ⟨⟨ending?, h⟩, hs, hle, ?_⟩
      intro w hw'
      rw [hw] at hw'
      cases hw'
    | some t =>
      obtain ⟨hlt, htimer, hhead⟩ := nextInstant?_spec hs (fun e he => (htimes e he).1) hnext
      dsimp only
      by_cases hh : horizon < t
      · rw [if_pos hh]
        cases timeline with
        | nil =>
          rw [List.append_nil]
          refine ⟨⟨ending?, h⟩, hs, hle, ?_⟩
          intro w hw
          exact Nat.lt_of_lt_of_le hh (htimer w hw)
        | cons e timeline =>
          have h₁ := hhead e rfl
          have h₂ := (htimes e List.mem_cons_self).2
          omega
      · rw [if_neg hh]
        obtain ⟨hdue, hrest, hsort'⟩ := takeWhile_due Prod.fst hsort t
        have hsplit := List.takeWhile_append_dropWhile (p := fun e : Nat × InboundEvent => e.1 ≤ t)
          (l := timeline)
        generalize timeline.takeWhile (fun e => e.1 ≤ t) = due at hdue hsplit ⊢
        generalize timeline.dropWhile (fun e => e.1 ≤ t) = later at hrest hsort' hsplit ⊢
        subst hsplit
        have hat : ∀ e ∈ due, e.1 = t := by
          intro e he
          refine Nat.le_antisymm (hdue e he) ?_
          cases due with
          | nil => cases he
          | cons d due =>
            refine Nat.le_trans (hhead d rfl) ?_
            rcases List.mem_cons.1 he with rfl | he
            · exact Nat.le_refl _
            · exact (List.pairwise_cons.1 hsort).1 e (List.mem_append_left later he)
        obtain ⟨ending?', hl, hs', hn, hc⟩ :=
          (h.clock hs (Nat.le_of_lt hlt) htimer).instant hk (due.map Prod.snd)
        rw [map_mk_snd hat] at hl
        rw [← List.append_assoc]
        refine Leads.playFor fuel hl (hc ▸ hk) hs' hsort' ?_ ?_ ?_
        · intro e he
          rw [hn]
          exact ⟨hrest e he, (htimes e (List.mem_append_right due he)).2⟩
        · rw [hn]
          exact Nat.not_lt.1 hh
        · rw [hn]
          omega

/-- A pump that is played until a time has been led there by the events of the timeline. -/
theorem playUntil_reaches {horizon : Nat} {timeline : List (Nat × InboundEvent)}
    (hk : 0 < r.config.keepaliveInterval) (hsort : timeline.Pairwise (·.1 ≤ ·.1))
    (htimes : ∀ e ∈ timeline, r.now ≤ e.1 ∧ e.1 ≤ horizon) (hle : r.now ≤ horizon) :
    Reaches horizon timeline r (r.playUntil horizon timeline) := by
  unfold playUntil
  dsimp only
  obtain ⟨hdue, hrest, hsort'⟩ := takeWhile_due Prod.fst hsort r.now
  have hsplit := List.takeWhile_append_dropWhile (p := fun e : Nat × InboundEvent => e.1 ≤ r.now)
    (l := timeline)
  generalize timeline.takeWhile (fun e => e.1 ≤ r.now) = due at hdue hsplit ⊢
  generalize timeline.dropWhile (fun e => e.1 ≤ r.now) = later at hrest hsort' hsplit ⊢
  subst hsplit
  have hat : ∀ e ∈ due, e.1 = r.now := by
    intro e he
    exact Nat.le_antisymm (hdue e he) (htimes e (List.mem_append_left later he)).1
  have hmove : r.Leads [] none (r.moveClock r.now) := Leads.start
  obtain ⟨ending?, hl, hs, hn, hc⟩ := hmove.instant hk (due.map Prod.snd)
  rw [map_mk_snd hat, List.nil_append] at hl
  refine hl.playFor _ (hc ▸ hk) hs hsort' ?_ (hn.le.trans hle) (by omega)
  intro e he
  rw [hn]
  exact ⟨hrest e he, (htimes e (List.mem_append_right due he)).2⟩

/-- Every timeline of events has a run, up to any time that is not before its last event. -/
theorem exists_leads {horizon : Nat} {timeline : List (Nat × InboundEvent)}
    (hk : 0 < r.config.keepaliveInterval) (hsort : timeline.Pairwise (·.1 ≤ ·.1))
    (htimes : ∀ e ∈ timeline, r.now ≤ e.1 ∧ e.1 ≤ horizon) (hle : r.now ≤ horizon) :
    ∃ ending? r', r.Leads timeline ending? r' ∧ r'.now = horizon := by
  obtain ⟨⟨ending?, hl⟩, hs, hle', hw⟩ := playUntil_reaches hk hsort htimes hle
  have hle'' : ∀ w, (r.playUntil horizon timeline).timer? = some w → horizon ≤ w := by
    intro w h
    exact Nat.le_of_lt (hw w h)
  exact ⟨ending?, _, hl.clock hs hle' hle'', rfl⟩

end InboundRun

end TunnelRelay.Relay
