import Mathlib.Data.List.Chain
import TunnelRelay.Proofs.Changes
/-!
# The states that a connection publishes

`Follows n` is the automaton of the published states for a budget of `n` attempts. The supervisor
publishes from several places and counts failures in its phase, so the invariant ties both
together: `Phase.Shows` says which state each phase goes with, and `Phase.IsWithin` that the count
stays below the budget.
-/

namespace TunnelRelay.Relay

open Net

/-! ## The automaton -/

/-- The states that may follow one another when `n` failures in a row are too many. -/
inductive Follows (n : Nat) : RelayState → RelayState → Prop
  | first : Follows n .idle (.connecting 1)
  | unresolved (text : String) : Follows n .idle (.failed (Error.dnsResolution text).message)
  | connected (k : Nat) : Follows n (.connecting k) .connected
  | failed (k : Nat) : Follows n (.connecting k) (.reconnecting k)
  | exhausted : Follows n (.connecting n) (.failed (Error.attemptsExhausted n).message)
  | lost : Follows n .connected (.reconnecting 0)
  | again (k : Nat) : Follows n (.reconnecting k) (.connecting (k + 1))
  | stoppedEarly : Follows n .idle .stopped
  | stoppedConnecting (k : Nat) : Follows n (.connecting k) .stopped
  | stoppedConnected : Follows n .connected .stopped
  | stoppedPausing (k : Nat) : Follows n (.reconnecting k) .stopped

/-- The numbers in a state stay within the budget. -/
def InBudget (n : Nat) : RelayState → Prop
  | .connecting k => 1 ≤ k ∧ k ≤ n
  | .reconnecting k => k < n
  | _ => True

/-- A history that the automaton allows, with its last state. -/
structure Recorded (n : Nat) (history : List RelayState) (state : RelayState) : Prop where
  head : history.head? = some .idle
  last : history.getLast? = some state
  chain : history.IsChain (Follows n)
  inBudget : ∀ s ∈ history, InBudget n s

theorem Recorded.publish {n : Nat} {history : List RelayState} {s s' : RelayState}
    (h : Recorded n history s) (hf : Follows n s s') (hb : InBudget n s') :
    Recorded n (history ++ [s']) s' where
  head := by rw [List.head?_append, h.head]; rfl
  last := List.getLast?_concat
  chain := by
    refine h.chain.append (.singleton s') ?_
    intro x hx y hy
    rw [h.last] at hx
    cases hx
    cases hy
    exact hf
  inBudget := List.forall_mem_append.2 ⟨h.inBudget, List.forall_mem_singleton.2 hb⟩

/-- The published state that goes with a phase. -/
def Phase.Shows (state : RelayState) : Phase → Prop
  | .idle | .starting => state = .idle
  | .opening _ f => state = .reconnecting f ∨ f = 0 ∧ state = .idle
  | .attempting _ f => state = .connecting (f + 1)
  | .pumping _ => state = .connected
  | .pausing _ f _ => state = .reconnecting f
  | .done result => state = Run.finalState result

/-- What a budget of `n` attempts and the stop say about a phase. -/
def Phase.IsWithin (n : Nat) (stop : Bool) : Phase → Prop
  | .opening _ f | .attempting _ f | .pausing _ f _ => f < n
  | .done (.ok ()) => stop = true
  | .done (.error e) => e = .attemptsExhausted n ∨ ∃ text, e = .dnsResolution text
  | _ => True

theorem Phase.IsWithin.stop {n : Nat} {stop stop' : Bool} {p : Phase} (h : p.IsWithin n stop)
    (hs : stop = true → stop' = true) : p.IsWithin n stop' := by
  cases p with
  | done result =>
    cases result with
    | ok _ => exact hs h
    | error e => exact h
  | _ => exact h

namespace Run

/-! ## The state and the phase -/

section
variable {n : Nat} {r r' : Run}

theorem afterAttempt_shows (r : Run) (server : Address) (f : Nat) :
    (r.afterAttempt server f).phase.Shows (r.afterAttempt server f).state := by
  rcases r.afterAttempt_cases server f with ⟨-, log, e⟩ | ⟨-, -, log, e⟩ | ⟨-, -, e⟩ <;> rw [e] <;> rfl

theorem Change.shows (hc : r.Change r') (h : r.phase.Shows r.state) : r'.phase.Shows r'.state := by
  cases hc with
  | resolved hp _ _ => rw [hp] at h; exact .inr ⟨rfl, h⟩
  | unresolved | stopped | begins | connects => rfl
  | fails | loses => exact afterAttempt_shows _ _ _
  | outbound hp _ | inbound hp _ => rw [hp] at h; exact h
  | wakes hp _ _ => rw [hp] at h; exact .inl h

theorem happen_shows (h : r.phase.Shows r.state) (e : Event) :
    (r.happen e).phase.Shows (r.happen e).state := by
  rw [happen_state]
  rcases r.happen_phase e with hp | ⟨hi, -, hp⟩ <;> rw [hp]
  · exact h
  · rw [hi] at h; exact h

/-- The published state goes with the phase at every moment of a run. -/
theorem Leads.shows {r₀ : Run} {es : List Event} (h₀ : r₀.IsFresh) (h : r₀.Leads es r) :
    r.phase.Shows r.state := by
  induction h with
  | start => rw [h₀.phase]; exact h₀.state
  | event _ e ih => exact happen_shows ih e
  | does _ hd ih => exact hd.change.shows ih
  | clock _ _ _ _ ih => exact ih

/-! ## The invariant -/

/-- The states published so far are lawful, and the supervisor stands where the last one says. -/
structure IsPublished (r : Run) (n : Nat) : Prop where
  recorded : Recorded n r.history r.state
  agrees : r.phase.Shows r.state
  within : r.phase.IsWithin n r.stop

theorem IsFresh.isPublished (h : r.IsFresh) : r.IsPublished n where
  recorded := by
    rw [h.history, h.state]
    exact ⟨rfl, rfl, .singleton _, by simp [InBudget]⟩
  agrees := by rw [h.phase]; exact h.state
  within := by rw [h.phase]; trivial

/-- After an attempt the count of failures decides between an end and a pause. -/
theorem isPublished_afterAttempt (h : Recorded n r.history r.state)
    (hn : r.config.maxAttempts.toNat = n) (server : Address) {f : Nat}
    (hs : Follows n r.state .stopped)
    (hx : n ≤ f → f = n ∧ Follows n r.state (.failed (Error.attemptsExhausted n).message))
    (hr : Follows n r.state (.reconnecting f)) : (r.afterAttempt server f).IsPublished n := by
  rcases r.afterAttempt_cases server f with ⟨hst, log, e⟩ | ⟨-, hle, log, e⟩ | ⟨-, hlt, e⟩ <;> rw [e]
  · exact ⟨h.publish hs trivial, rfl, hst⟩
  · rw [hn] at hle
    obtain ⟨rfl, hf⟩ := hx hle
    exact ⟨h.publish hf trivial, rfl, .inl rfl⟩
  · rw [hn] at hlt
    exact ⟨h.publish hr hlt, rfl, hlt⟩

theorem IsPublished.change (h : r.IsPublished n) (hn : r.config.maxAttempts.toNat = n)
    (hpos : 0 < n) (hc : r.Change r') : r'.IsPublished n := by
  have hs' := hc.shows h.agrees
  obtain ⟨hh, hf, hw⟩ := h
  cases hc with
  | resolved hp hs ha => exact ⟨hh, hs', hpos⟩
  | @unresolved e log hp hs he =>
    rw [hp] at hf
    obtain ⟨text, rfl⟩ : ∃ text, e = .dnsResolution text := by
      unfold resolve at he
      split at he
      · cases he
      · cases he; exact ⟨_, rfl⟩
    refine ⟨hh.publish ?_ trivial, hs', .inr ⟨text, rfl⟩⟩
    rw [show r.state = .idle from hf]
    exact .unresolved text
  | stopped hp hs =>
    refine ⟨hh.publish ?_ trivial, hs', hs⟩
    rcases hp with hp | ⟨server, f, hp⟩ | ⟨server, f, wake, hp⟩ <;> rw [hp] at hf
    · rw [show r.state = .idle from hf]; exact .stoppedEarly
    · rcases hf with hr | ⟨-, hi⟩
      · rw [hr]; exact .stoppedPausing f
      · rw [hi]; exact .stoppedEarly
    · rw [show r.state = .reconnecting f from hf]; exact .stoppedPausing f
  | @begins server f hp hs =>
    rw [hp] at hf hw
    have hfo : Follows n r.state (.connecting (f + 1)) := by
      rcases hf with hr | ⟨rfl, hi⟩
      · rw [hr]; exact .again f
      · rw [hi]; exact .first
    exact ⟨hh.publish hfo ⟨by omega, hw⟩, hs', hw⟩
  | @fails server f c host log hp _ _ =>
    rw [hp] at hf hw
    have hst : (r.afterCalls (c.opening r.hasListener r.hasDescriptor) host log).state =
      .connecting (f + 1) := hf
    refine isPublished_afterAttempt (r := r.afterCalls _ host log) hh hn server ?_ ?_ ?_ <;> rw [hst]
    · exact .stoppedConnecting _
    · intro hle
      obtain rfl : f + 1 = n := Nat.le_antisymm hw hle
      exact ⟨rfl, .exhausted⟩
    · exact .failed _
  | connects hp _ _ _ =>
    rw [hp] at hf
    refine ⟨hh.publish ?_ trivial, hs', trivial⟩
    rw [show r.state = .connecting _ from hf]
    exact .connected _
  | outbound | inbound => exact ⟨hh, hs', trivial⟩
  | @loses a _ _ ok host log hp _ _ _ =>
    rw [hp] at hf
    have hst : (r.afterClose a.device ok host log).state = .connected := hf
    refine isPublished_afterAttempt (r := r.afterClose _ ok host log) hh hn a.server ?_ ?_ ?_ <;>
      rw [hst]
    · exact .stoppedConnected
    · intro hle; omega
    · exact .lost
  | wakes hp _ _ => rw [hp] at hw; exact ⟨hh, hs', hw⟩

theorem IsPublished.happen (h : r.IsPublished n) (e : Event) : (r.happen e).IsPublished n where
  recorded := by rw [happen_history, happen_state]; exact h.recorded
  agrees := happen_shows h.agrees e
  within := by
    have hw := h.within.stop fun hs => (r.happen_stop e).2 (.inl hs)
    rcases r.happen_phase e with hp | ⟨hi, -, hp⟩ <;> rw [hp]
    · exact hw
    · trivial

/-- The invariant holds of every run with a budget. -/
theorem Leads.isPublished {r₀ : Run} {es : List Event} (h₀ : r₀.IsFresh)
    (hn : r₀.config.maxAttempts ≠ 0) (h : r₀.Leads es r) :
    r.IsPublished r₀.config.maxAttempts.toNat := by
  have hpos : 0 < r₀.config.maxAttempts.toNat :=
    Nat.pos_of_ne_zero fun e => hn (UInt32.toNat_inj.1 e)
  induction h with
  | start => exact h₀.isPublished
  | event _ e ih => exact ih.happen e
  | does hl hd ih => exact ih.change (by rw [hl.sameTerms.config]) hpos hd.change
  | clock _ _ _ _ ih => exact ⟨ih.recorded, ih.agrees, ih.within⟩

end

/-! ## The start -/

theorem Change.ne_idle {r r' : Run} (h : r.Change r') : r.phase ≠ .idle ∧ r'.phase ≠ .idle := by
  have after (r : Run) (server : Address) (f : Nat) : (r.afterAttempt server f).phase ≠ .idle := by
    rcases r.afterAttempt_phase server f with ⟨_, e⟩ | e <;> rw [e] <;> exact Phase.noConfusion
  cases h with
  | fails hp | loses hp => rw [hp]; exact ⟨Phase.noConfusion, after _ _ _⟩
  | stopped hp =>
    refine ⟨?_, Phase.noConfusion⟩
    rcases hp with hp | ⟨_, _, hp⟩ | ⟨_, _, _, hp⟩ <;> rw [hp] <;> exact Phase.noConfusion
  | _ hp => rw [hp]; exact ⟨Phase.noConfusion, Phase.noConfusion⟩

/-- Only a start among the events starts a connection. -/
theorem Leads.ne_idle {r r' : Run} {es : List Event} (h : r.Leads es r') :
    r'.phase ≠ .idle ↔ r.phase ≠ .idle ∨ .run ∈ es := by
  induction h with
  | start => simp
  | event _ e ih =>
    rw [happen_phase_ne_idle, ih, List.mem_append, List.mem_singleton, or_assoc, @eq_comm _ e]
  | does _ hd ih => exact ⟨fun _ => ih.1 hd.change.ne_idle.1, fun _ => hd.change.ne_idle.2⟩
  | clock _ _ _ _ ih => exact ih

/-- A connection has been started when a start was among the events. -/
theorem Leads.phase_ne_idle {r r' : Run} {es : List Event} (hi : r.phase = .idle)
    (h : r.Leads es r') : r'.phase ≠ .idle ↔ .run ∈ es := by
  rw [h.ne_idle]
  simp [hi]

/-- A result is what the last state says. -/
theorem result?_of_shows {r : Run} (h : r.phase.Shows r.state) :
    (r.state = .stopped ↔ r.result? = some (.ok ())) ∧
      ∀ m, r.state = .failed m ↔ ∃ e, r.result? = some (.error e) ∧ e.message = m := by
  unfold result?
  cases hp : r.phase with
  | done result =>
    rw [hp] at h
    have h : r.state = finalState result := h
    cases result <;> simp [h, finalState]
  | opening server f => rw [hp] at h; rcases h with h | ⟨-, h⟩ <;> simp [h]
  | idle | starting | attempting | pumping | pausing =>
    rw [hp] at h; simp [show r.state = _ from h]

/-! ## The law of the published states -/

/-- However a run goes, its history obeys the automaton, stays within the budget and ends as the
connection has ended; once started, a connection cannot be started again. -/
theorem Leads.history_lawful {r₀ r : Run} {es : List Event} (h₀ : r₀.IsFresh)
    (hn : r₀.config.maxAttempts ≠ 0) (h : r₀.Leads es r) :
    r.history.head? = some .idle ∧
    r.history.IsChain (Follows r₀.config.maxAttempts.toNat) ∧
    (∀ k, .connecting k ∈ r.history → 1 ≤ k ∧ k ≤ r₀.config.maxAttempts.toNat) ∧
    (∀ k, .reconnecting k ∈ r.history → k ≤ r₀.config.maxAttempts.toNat - 1) ∧
    r.history.getLast? = some r.state ∧
    (r.history.getLast? = some .stopped ↔ r.result? = some (.ok ())) ∧
    (r.result? = some (.ok ()) → .stop ∈ es) ∧
    (∀ m, r.history.getLast? = some (.failed m) ↔
      ∃ e, r.result? = some (.error e) ∧ e.message = m) ∧
    (∀ e, r.result? = some (.error e) →
      e = .attemptsExhausted r₀.config.maxAttempts.toNat ∨ ∃ text, e = .dnsResolution text) ∧
    (.run ∉ es → r.start.1 = .ok ()) ∧
    (.run ∈ es → r.start = (.error .alreadyRunning, r) ∧ r.happen .run =
      { r with observations := r.observations ++ [.run r.now (.error .alreadyRunning)] }) := by
  obtain ⟨hh, hf, hw⟩ := h.isPublished h₀ hn
  obtain ⟨hok, herr⟩ := result?_of_shows hf
  have hlost : ∀ k, .reconnecting k ∈ r.history → k ≤ r₀.config.maxAttempts.toNat - 1 := by
    intro k hk
    have hlt : k < r₀.config.maxAttempts.toNat := hh.inBudget _ hk
    omega
  have hstopped : r.result? = some (.ok ()) → .stop ∈ es := by
    intro hr
    have hs : r.stop = true := by rw [result?_eq_some_iff.1 hr] at hw; exact hw
    simpa [h₀.stop] using h.stop.1 hs
  have hfirst : .run ∉ es → r.start.1 = .ok () := by
    intro he
    have hi : r.phase = .idle := by
      by_contra hp
      exact he ((h.phase_ne_idle h₀.phase).1 hp)
    unfold Run.start
    rw [hi]
  have hagain : .run ∈ es → r.start = (.error .alreadyRunning, r) ∧ r.happen .run =
      { r with observations := r.observations ++ [.run r.now (.error .alreadyRunning)] } := by
    intro he
    have hs := start_of_ne_idle ((h.phase_ne_idle h₀.phase).2 he)
    refine ⟨hs, ?_⟩
    unfold happen
    rw [hs]
  refine ⟨hh.head, hh.chain, ?_, hlost, hh.last, ?_, hstopped, ?_, ?_, hfirst, hagain⟩
  · intro k hk
    exact hh.inBudget _ hk
  · rw [hh.last, Option.some_inj]; exact hok
  · intro m
    rw [hh.last, Option.some_inj]; exact herr m
  · intro e hr
    rw [result?_eq_some_iff.1 hr] at hw
    exact hw

/-- In the small run a connected attempt is lost, and the next one uses up the budget. -/
theorem trialDone_history : trialDone.result? = some (.error (.attemptsExhausted 1)) ∧
    trialDone.history.IsChain (Follows 1) ∧
    trialDone.history.getLast? = some (.failed (Error.attemptsExhausted 1).message) ∧
    trialDone.start = (.error .alreadyRunning, trialDone) := by
  have h := trial_leads_done.history_lawful trial_isFresh (by decide)
  obtain ⟨-, hchain, -, -, -, -, -, hfailed, -, -, hrun⟩ := h
  have hr : trialDone.result? = some (.error (.attemptsExhausted 1)) := rfl
  exact ⟨hr, hchain, (hfailed _).2 ⟨_, hr, rfl⟩, (hrun (by simp [trialEvents])).1⟩

end Run

end TunnelRelay.Relay
