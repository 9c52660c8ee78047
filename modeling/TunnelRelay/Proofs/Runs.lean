import TunnelRelay.Relay.Timeline
/-!
# Runs of a connection

`Run.Does` says what a connection can do next. The two pumps are tasks of their own, so while both
can do something either may go first; `Run.step` is the one order that is executed.

`Run.Leads` is a run: events happen at any moment, the connection does what it can, and time
passes only when nothing can be done, never beyond the next timer. The label of a run lists its
events, so that a statement can speak of what was pushed or whether a stop was requested without
looking at the state.
-/

namespace TunnelRelay.Relay.Run

open Net

/-- What a connection can do without the clock moving. -/
inductive Does (r : Run) : Run → Prop
  | lookUp (hp : r.phase = .starting) : Does r r.lookUp
  | beginAttempt {server : Address} {f : Nat} (hp : r.phase = .opening server f) :
    Does r (r.beginAttempt server f)
  | openAttempt {server : Address} {f : Nat} (hp : r.phase = .attempting server f) :
    Does r (r.openAttempt server f)
  | outbound {a : Attempt} {r' : Run} (hp : r.phase = .pumping a) (h : r.outboundStep a = some r') :
    Does r r'
  | inbound {a : Attempt} {r' : Run} (hp : r.phase = .pumping a) (h : r.inboundStep a = some r') :
    Does r r'
  | tearDown {a : Attempt} {o i : Except Error PumpStats} (hp : r.phase = .pumping a)
    (ho : a.outbound.result? = some o) (hi : a.inbound.result? = some i) : Does r (r.tearDown a o i)
  | stopPause {server : Address} {f wake : Nat} (hp : r.phase = .pausing server f wake)
    (hs : r.stop = true) : Does r r.finishStopped
  | wake {server : Address} {f wake : Nat} (hp : r.phase = .pausing server f wake)
    (hs : r.stop = false) (hw : wake ≤ r.now) : Does r { r with phase := .opening server f }

/-- The executed step is one of the things that the connection can do. -/
theorem does_of_step {r r' : Run} (h : r.step = some r') : r.Does r' := by
  unfold step at h
  split at h
  · cases h
  · cases h
  · rename_i hp; cases h; exact .lookUp hp
  · rename_i hp; cases h; exact .beginAttempt hp
  · rename_i hp; cases h; exact .openAttempt hp
  · rename_i a hp
    unfold pumpStep at h
    split at h
    · rename_i ho; cases h; exact .outbound hp ho
    · split at h
      · rename_i hi; cases h; exact .inbound hp hi
      · unfold join at h
        split at h
        · rename_i ho hi; cases h; exact .tearDown hp ho hi
        · cases h
  · rename_i server f wake hp
    split at h
    · rename_i hs; cases h; exact .stopPause hp hs
    · rename_i hs
      split at h
      · rename_i hw; cases h; exact .wake hp (by simpa using hs) hw
      · cases h

/-- The executed step rests only when no order of the tasks goes on. -/
theorem Does.step_ne_none {r r' : Run} (h : r.Does r') : r.step ≠ none := by
  cases h with
  | lookUp hp => simp [step, hp]
  | beginAttempt hp => simp [step, hp]
  | openAttempt hp => simp [step, hp]
  | outbound hp ho => simp [step, hp, pumpStep, ho]
  | inbound hp hi =>
    simp only [step, hp, pumpStep, hi]
    split <;> simp
  | tearDown hp ho hi =>
    simp only [step, hp, pumpStep, join, ho, hi]
    split
    · simp
    · split <;> simp
  | stopPause hp hs => simp [step, hp, hs]
  | wake hp hs hw => simp [step, hp, hs, hw]

/-- From `r` a run can come to `r'`, and the events `es` happen on the way, in this order. -/
inductive Leads (r : Run) : List Event → Run → Prop
  | start : Leads r [] r
  | event {es : List Event} {r' : Run} (h : Leads r es r') (e : Event) :
    Leads r (es ++ [e]) (r'.happen e)
  | does {es : List Event} {r' r'' : Run} (h : Leads r es r') (hd : r'.Does r'') : Leads r es r''
  | clock {es : List Event} {r' : Run} (h : Leads r es r') {t : Nat} (hn : r'.step = none)
    (hle : r'.now ≤ t) (ht : ∀ w, r'.timer? = some w → t ≤ w) : Leads r es (r'.moveClock t)

/-- A connection that nothing has happened to. Its surroundings are free. -/
structure IsFresh (r : Run) : Prop where
  phase : r.phase = .idle
  state : r.state = .idle
  history : r.history = [.idle]
  stop : r.stop = false
  calls : r.calls = []
  established : r.established = 0
  observations : r.observations = []
  sent : r.channel.sent = []
  taken : r.channel.taken = []

theorem Leads.step {r r' r'' : Run} {es : List Event} (h : r.Leads es r') (hs : r'.step = some r'') :
    r.Leads es r'' :=
  h.does (does_of_step hs)

/-- Whatever the bound, the executed order of steps is a run. -/
theorem Leads.settleWithin {r : Run} {es : List Event} :
    ∀ (fuel : Nat) {r' : Run}, r.Leads es r' → r.Leads es (r'.settleWithin fuel)
  | 0, _, h => h
  | fuel + 1, r', h => by
    unfold Run.settleWithin
    split
    · exact h
    · rename_i hs; exact Leads.settleWithin fuel (h.step hs)

theorem Leads.trans {r r' r'' : Run} {es es' : List Event} (h : r.Leads es r')
    (h' : r'.Leads es' r'') : r.Leads (es ++ es') r'' := by
  induction h' with
  | start => simpa using h
  | event _ e ih => rw [← List.append_assoc]; exact ih.event e
  | does _ hd ih => exact ih.does hd
  | clock _ hn hle ht ih => exact ih.clock hn hle ht

/-- The clock of a run may move up to the timer, where that is known. -/
theorem le_timer {r : Run} {s t : Nat} (hs : r.timer? = some s) (hle : t ≤ s) :
    ∀ w, r.timer? = some w → t ≤ w := by
  intro w hw
  rw [hs] at hw
  cases hw
  exact hle

/-- Events may happen one after another before the connection reacts to any of them. -/
theorem leads_events (r : Run) : ∀ es : List Event, r.Leads es (es.foldl happen r)
  | [] => .start
  | e :: es => (Leads.start.event e).trans (leads_events (r.happen e) es)

/-- A connection has a result once its supervisor is done. -/
theorem result?_eq_some_iff {r : Run} {result : Except Error Unit} :
    r.result? = some result ↔ r.phase = .done result := by
  unfold result?
  cases r.phase <;> simp

/-- A connection that has ended does nothing more. -/
theorem Does.result?_eq_none {r r' : Run} (h : r.Does r') : r.result? = none := by
  cases hr : r.result? with
  | none => rfl
  | some result =>
    refine absurd ?_ h.step_ne_none
    rw [step, result?_eq_some_iff.1 hr]

/-! ## What events and the clock leave alone -/

section
variable (r : Run) (e : Event) (t : Nat)

theorem start_snd : r.start.2 = r ∨ r.phase = .idle ∧ r.start.2 = { r with phase := .starting } := by
  unfold start
  split
  · rename_i hp; exact .inr ⟨hp, rfl⟩
  · exact .inl rfl

/-- A second start is refused and changes nothing. -/
theorem start_of_ne_idle {r : Run} (hp : r.phase ≠ .idle) : r.start = (.error .alreadyRunning, r) := by
  unfold start
  split
  · rename_i h; exact absurd h hp
  · rfl

@[simp] theorem requestStop_stop : r.requestStop.stop = true := by
  unfold requestStop; split <;> simp_all

/-- An event reaches the surroundings, the stop, the log and the observations; a start also reaches
a connection that has not been started. -/
theorem happen_eq : ∃ network channel stop log observations phase, r.happen e =
    { r with
      network := network, channel := channel, stop := stop, log := log
      observations := observations, phase := phase } ∧
    (channel.now = r.now ∧ channel.wire.mode = r.channel.wire.mode ∧
      channel.sent = r.channel.sent ∧ channel.taken = r.channel.taken ∧
      channel.delivered = r.channel.delivered ∧
      channel.wire.writesPanic = r.channel.wire.writesPanic) ∧
    (phase = r.phase ∨ r.phase = .idle ∧ e = .run ∧ phase = .starting) := by
  cases e with
  | stop =>
    simp only [happen, requestStop]
    split <;> exact ⟨_, _, _, _, _, _, rfl, ⟨rfl, rfl, rfl, rfl, rfl, rfl⟩, .inl rfl⟩
  | serverSend p =>
    simp only [happen]
    split <;> exact ⟨_, _, _, _, _, _, rfl, ⟨rfl, rfl, rfl, rfl, rfl, rfl⟩, .inl rfl⟩
  | run =>
    simp only [happen]
    rcases r.start_snd with h | ⟨hp, h⟩ <;> rw [h]
    · exact ⟨_, _, _, _, _, _, rfl, ⟨rfl, rfl, rfl, rfl, rfl, rfl⟩, .inl rfl⟩
    · exact ⟨_, _, _, _, _, _, rfl, ⟨rfl, rfl, rfl, rfl, rfl, rfl⟩, .inr ⟨hp, trivial, rfl⟩⟩
  | _ => exact ⟨_, _, _, _, _, _, rfl, ⟨rfl, rfl, rfl, rfl, rfl, rfl⟩, .inl rfl⟩

@[simp] theorem happen_config : (r.happen e).config = r.config := by
  obtain ⟨_, _, _, _, _, _, h, -⟩ := r.happen_eq e; rw [h]

@[simp] theorem happen_hasListener : (r.happen e).hasListener = r.hasListener := by
  obtain ⟨_, _, _, _, _, _, h, -⟩ := r.happen_eq e; rw [h]

@[simp] theorem happen_names : (r.happen e).names = r.names := by
  obtain ⟨_, _, _, _, _, _, h, -⟩ := r.happen_eq e; rw [h]

@[simp] theorem happen_host : (r.happen e).host = r.host := by
  obtain ⟨_, _, _, _, _, _, h, -⟩ := r.happen_eq e; rw [h]

@[simp] theorem happen_calls : (r.happen e).calls = r.calls := by
  obtain ⟨_, _, _, _, _, _, h, -⟩ := r.happen_eq e; rw [h]

@[simp] theorem happen_established : (r.happen e).established = r.established := by
  obtain ⟨_, _, _, _, _, _, h, -⟩ := r.happen_eq e; rw [h]

@[simp] theorem happen_state : (r.happen e).state = r.state := by
  obtain ⟨_, _, _, _, _, _, h, -⟩ := r.happen_eq e; rw [h]

@[simp] theorem happen_history : (r.happen e).history = r.history := by
  obtain ⟨_, _, _, _, _, _, h, -⟩ := r.happen_eq e; rw [h]

@[simp] theorem happen_now : (r.happen e).now = r.now := by
  obtain ⟨_, _, _, _, _, _, h, ⟨hn, -⟩, -⟩ := r.happen_eq e; rw [h]; exact hn

theorem happen_mode : (r.happen e).channel.wire.mode = r.channel.wire.mode := by
  obtain ⟨_, _, _, _, _, _, h, ⟨-, hm, -⟩, -⟩ := r.happen_eq e; rw [h]; exact hm

/-- No event sends or reads anything. -/
theorem happen_sent_taken : (r.happen e).channel.sent = r.channel.sent ∧
    (r.happen e).channel.taken = r.channel.taken := by
  obtain ⟨_, _, _, _, _, _, h, ⟨-, -, hs, ht, -⟩, -⟩ := r.happen_eq e; rw [h]; exact ⟨hs, ht⟩

/-- No event writes anything to the interface. -/
theorem happen_delivered : (r.happen e).channel.delivered = r.channel.delivered := by
  obtain ⟨_, _, _, _, _, _, h, ⟨-, -, -, -, hd, -⟩, -⟩ := r.happen_eq e; rw [h]; exact hd

theorem happen_writesPanic :
    (r.happen e).channel.wire.writesPanic = r.channel.wire.writesPanic := by
  obtain ⟨_, _, _, _, _, _, h, ⟨-, -, -, -, -, hw⟩, -⟩ := r.happen_eq e; rw [h]; exact hw

theorem happen_phase : (r.happen e).phase = r.phase ∨
    r.phase = .idle ∧ e = .run ∧ (r.happen e).phase = .starting := by
  obtain ⟨_, _, _, _, _, _, h, -, hp⟩ := r.happen_eq e; rw [h]; exact hp

/-- No event starts the pumps of an attempt or changes where they stand. -/
theorem phase_of_happen {r : Run} {e : Event} {a : Attempt} (hp : (r.happen e).phase = .pumping a) :
    r.phase = .pumping a := by
  rcases r.happen_phase e with h | ⟨-, -, h⟩
  · exact h.symm.trans hp
  · rw [h] at hp; cases hp

/-- Only a start takes a connection out of its first phase. -/
theorem happen_phase_ne_idle : (r.happen e).phase ≠ .idle ↔ r.phase ≠ .idle ∨ e = .run := by
  rcases r.happen_phase e with h | ⟨hi, rfl, h⟩ <;> rw [h]
  · refine ⟨.inl, ?_⟩
    rintro (hp | rfl) hi
    · exact hp hi
    · rw [hi] at h
      simp [happen, start, hi] at h
  · simp

/-- The stop is requested by a stop and by nothing else. -/
theorem happen_stop : (r.happen e).stop = true ↔ r.stop = true ∨ e = .stop := by
  cases e with
  | stop => simp [happen]
  | serverSend p => simp only [happen]; split <;> simp [modifyTransport]
  | run =>
    simp only [happen]
    rcases r.start_snd with h | ⟨-, h⟩ <;> simp [h]
  | _ => simp [happen, modifyWire, modifyTransport]

/-- Events take no time. -/
theorem foldl_happen_now (es : List Event) (r : Run) : (es.foldl happen r).now = r.now := by
  induction es generalizing r with
  | nil => rfl
  | cons e es ih => exact (ih (r.happen e)).trans (r.happen_now e)

@[simp] theorem moveClock_phase : (r.moveClock t).phase = r.phase := rfl

end

/-! ## A small run -/

/-- A connection that may fail once. Its host grants two sockets and no more, and its first
interface cannot be closed. -/
def trial : Run where
  config := { server := "127.0.0.1", port := 4242, maxAttempts := 1, retryInterval := 10 }
  hasListener := true
  hasIntent := false
  network := .loopback
  host :=
    { params := [], paramsDefault := ⟨⟨192, 168, 255, 6⟩, 29, 1500⟩
      protect := [true, true], protectDefault := false, refused := [], auxiliary := [some 7]
      establish := [], establishDefault := .ok (), close := [false], protectLog := fun _ _ => [] }
  channel :=
    { now := 0, wire := ⟨.waits, [], 0, 0, false, false⟩, transport := ⟨[], false, false⟩
      serverOpen := true, started := 0, timing := {}, sent := [], delivered := [] }

theorem trial_isFresh : trial.IsFresh := by
  constructor <;> rfl

/-- The small run with its first interface established. -/
def trialConnected : Run := (trial.happen .run).settleWithin 3

/-- What happens in the small run once it is connected. -/
def trialEvents : List Event := [.push [69, 1], .push [], .push [70], .run, .readError]

/-- The small run when it has sent one packet, pauses after an empty one and is to fail next. -/
def trialPumping : Run :=
  (([.push [69, 1], .push [], .push [70], .run].foldl happen trialConnected).settleWithin 9).happen
    .readError

/-- The end of the small run: its second attempt is refused. -/
def trialDone : Run :=
  (((trialPumping.moveClock 100).settleWithin 9).moveClock 110).settleWithin 9

theorem trial_leads_connected : trial.Leads [.run] trialConnected :=
  (Leads.start.event .run).settleWithin 3

theorem trialConnected_leads : trialConnected.Leads trialEvents trialPumping :=
  ((((Leads.start.event (.push [69, 1])).event (.push [])).event (.push [70])).event
    .run).settleWithin 9 |>.event .readError

theorem trial_leads_done : trial.Leads (.run :: trialEvents) trialDone := by
  have h₁ : trial.Leads (.run :: trialEvents) ((trialPumping.moveClock 100).settleWithin 9) := by
    have h₀ := trial_leads_connected.trans trialConnected_leads
    exact (h₀.clock rfl (by decide) (le_timer (s := 100) rfl (Nat.le_refl _))).settleWithin 9
  exact (h₁.clock rfl (by decide) (le_timer (s := 110) rfl (Nat.le_refl _))).settleWithin 9

end TunnelRelay.Relay.Run
