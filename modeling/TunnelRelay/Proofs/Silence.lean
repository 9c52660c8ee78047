import TunnelRelay.Proofs.Delivery
import TunnelRelay.Proofs.Suspension
/-!
# How a dead inbound direction ends its attempt

The failure of an inbound pump requests the stop of its attempt, so the outbound pump ends, the
interface is closed and the connection is no longer connected, all in the same instant. Silence of
the server is such a failure, and a pump that has not ended waits for nothing but the server while
the clock moves; so an attempt never outlasts the server's last datagram by more than the receive
timeout. The exception is a pump that a panicking write has ended: it requests nothing, and its
attempt goes on as if the direction were alive.
-/

namespace TunnelRelay.Relay

/-! ## What a pump hears -/

section
variable {stop : Bool} {config : InboundConfig} {i i' : Inbound} {c c' : Channel}

theorem Inbound.hasFailed_iff : i.hasFailed = true ↔ ∃ e, i.phase = .ended (.error e) := by
  unfold hasFailed
  split
  · rename_i e hp; simp [hp]
  · rename_i hne
    refine ⟨nofun, ?_⟩
    rintro ⟨e, hp⟩
    exact absurd hp (hne e)

/-- Nothing but a datagram that is received counts as a sign of the server. -/
theorem Inbound.Moves.lastReceived (h : i.Moves stop config c i' c') :
    i'.lastReceived = i.lastReceived ∧ c'.transport.inbox = c.transport.inbox ∨
      i'.lastReceived = c.now ∧ c.transport.inbox ≠ [] := by
  cases h with
  | received _ _ _ _ hq => exact .inr ⟨rfl, by rw [hq]; exact List.cons_ne_nil _ _⟩
  | _ => exact .inl ⟨rfl, rfl⟩

/-- A panic has ended the task for good. -/
theorem Inbound.Moves.ne_panicked (h : i.Moves stop config c i' c') : i.phase ≠ .panicked := by
  cases h with
  | _ hp => rw [hp]; exact InboundPhase.noConfusion

theorem Inbound.Moves.writesPanic (h : i.Moves stop config c i' c') (hp : i'.phase = .panicked) :
    c.wire.writesPanic = true := by
  cases h with
  | panicked _ hw => exact hw
  | received =>
    unfold Inbound.accept at hp
    dsimp only at hp
    split at hp <;> cases hp
  | _ => cases hp

end

namespace Run

section
variable {r r' : Run} {a : Attempt}

/-- Only where writes panic has a write ended the inbound pump. -/
theorem Leads.writesPanic {r₀ : Run} {es : List Event} (h₀ : r₀.IsFresh) (h : r₀.Leads es r) :
    r.channel.wire.writesPanic = r₀.channel.wire.writesPanic ∧
      ∀ a, r.phase = .pumping a → a.inbound.phase = .panicked →
        r₀.channel.wire.writesPanic = true := by
  induction h with
  | start => exact ⟨rfl, fun a hp => by rw [h₀.phase] at hp; cases hp⟩
  | @event es r _ e ih =>
    refine ⟨(r.happen_writesPanic e).trans ih.1, ?_⟩
    intro a hp
    exact ih.2 a (phase_of_happen hp)
  | @does es r r' _ hd ih =>
    have hc := hd.change
    refine ⟨hc.flags.2.2.trans ih.1, ?_⟩
    intro a' hp' hpan
    cases hc with
    | resolved | unresolved | stopped | begins | wakes => cases hp'
    | fails | loses => exact absurd hp' (afterAttempt_ne_pumping _ _ _ _)
    | connects => cases hp'; cases hpan
    | outbound hp => cases hp'; exact ih.2 _ hp hpan
    | inbound hp hm => cases hp'; exact ih.1.symm.trans (hm.writesPanic hpan)
  | clock _ _ _ _ ih => exact ih

/-! ## A pump that has failed -/

theorem afterAttempt_ne_connected (r : Run) (server : Net.Address) (f : Nat) :
    (r.afterAttempt server f).state ≠ .connected := by
  rcases r.afterAttempt_cases server f with ⟨-, log, h⟩ | ⟨-, -, log, h⟩ | ⟨-, -, h⟩ <;> rw [h] <;>
    exact RelayState.noConfusion

/-- In `r` the attempt that opened `device` unwinds, and nothing has been asked of the host since
`r₁`. -/
structure Unwinds (r₁ : Run) (device : String) (r : Run) : Prop where
  linked : r.Linked
  shows : r.phase.Shows r.state
  free : r.channel.transport.isFull = false
  now : r.now = r₁.now
  calls : r.calls = r₁.calls
  pumps : ∃ a, r.phase = .pumping a ∧ a.stop = true ∧ a.device = device

/-- The attempt that opened `device` has ended, and all that was asked of the host since `r₁` is to
close that interface. -/
structure Unwound (r₁ : Run) (device : String) (r : Run) : Prop where
  now : r.now = r₁.now
  state : r.state ≠ .connected
  calls : ∃ ok, r.calls = r₁.calls ++ [⟨r₁.now, .close device ok, .connected⟩]

variable {r₁ : Run} {device : String}

/-- Each change of an attempt that unwinds brings it closer to its end. -/
theorem Unwinds.change (h : Unwinds r₁ device r) (hc : r.Change r') :
    (Unwound r₁ device r' ∨ Unwinds r₁ device r') ∧ r'.stepsLeft < r.stepsLeft := by
  have hnow := hc.now
  have keep (hcalls : r'.calls = r.calls)
      (hp : ∃ a, r'.phase = .pumping a ∧ a.stop = true ∧ a.device = device) :
      Unwinds r₁ device r' :=
    ⟨h.linked.change hc, hc.shows h.shows, hc.flags.2.1.trans h.free, hnow.trans h.now,
      hcalls.trans h.calls, hp⟩
  obtain ⟨a, hp, hs, hd⟩ := h.pumps
  have hshow := h.shows
  rw [hp] at hshow
  have hleft : r.stepsLeft = a.stepsLeft + 2 := by rw [stepsLeft, hp]
  rw [hleft]
  cases hc with
  | resolved hp' | unresolved hp' | begins hp' | fails hp' | connects hp' | wakes hp' =>
    rw [hp] at hp'; cases hp'
  | stopped hp' =>
    rw [hp] at hp'
    rcases hp' with hp' | ⟨_, _, hp'⟩ | ⟨_, _, _, hp'⟩ <;> cases hp'
  | outbound hp' hm =>
    rw [hp] at hp'
    cases hp'
    rw [hs, Bool.or_true] at hm
    refine ⟨.inr (keep rfl ⟨_, rfl, hs, hd⟩), ?_⟩
    exact Nat.add_lt_add_right (Nat.add_lt_add_right hm.stepsLeft_lt _) 2
  | inbound hp' hm =>
    rw [hp] at hp'
    cases hp'
    -- the stop was requested because the pump has failed
    have hfail := hm.hasFailed_eq_false
    rw [← (h.linked a hp).stop_eq, hs] at hfail
    cases hfail
  | @loses a' _ _ ok host log hp' =>
    rw [hp] at hp'
    cases hp'
    refine ⟨.inl ⟨hnow.trans h.now, afterAttempt_ne_connected _ _ _, ok, ?_⟩, ?_⟩
    · rw [afterAttempt_calls]
      show r.calls ++ [⟨r.now, .close a.device ok, r.state⟩] = _
      rw [h.calls, h.now, hd, show r.state = .connected from hshow]
    · exact Nat.lt_of_le_of_lt (afterAttempt_stepsLeft _ _ _) (Nat.lt_add_left _ Nat.one_lt_two)

/-- An attempt that unwinds always has something left to do. -/
theorem Unwinds.step_ne_none (h : Unwinds r₁ device r) : r.step ≠ none := by
  intro hn
  obtain ⟨a, hp, hs, -⟩ := h.pumps
  obtain ⟨ho, -, hne⟩ := rests_of_step hp hn
  rw [hs, Bool.or_true] at ho
  have hor : a.outbound.result? ≠ none := by
    rcases ho.of_stop with ho | ⟨_, -, hf⟩
    · exact ho
    · rw [h.free] at hf; cases hf
  have hir : a.inbound.result? ≠ none := by
    obtain ⟨e, he⟩ := Inbound.hasFailed_iff.1 ((h.linked a hp).stop_eq.symm.trans hs)
    rw [Inbound.result?, he]
    exact Option.some_ne_none _
  exact hne.elim hor hir

/-- When the stop of an attempt is requested, the attempt has ended before the clock moves, unless
the outbound pump is in a send that waits. -/
theorem Unwinds.eventually (h : Unwinds r₁ device r) : r.Eventually (Unwound r₁ device) := by
  refine eventually_of_rank (I := fun r => Unwound r₁ device r ∨ Unwinds r₁ device r) stepsLeft ?_ r
    (.inr h)
  rintro r (h | h)
  · exact .inl h
  · exact .inr ⟨h.step_ne_none, fun r' hd => h.change hd.change⟩

/-! ## Silence -/

/-- Where a connection whose pumps run has nothing to do, the inbound pump has not ended, unless by
a panic, or the outbound pump is in a send that waits. -/
theorem alive_of_step (hl : r.Linked) (hp : r.phase = .pumping a) (h : r.step = none)
    (hn : a.inbound.phase ≠ .panicked) : a.inbound.result? = none ∨
      ∃ p, a.outbound.phase = .sending p ∧ r.channel.transport.isFull = true := by
  obtain ⟨hstop, hstopIn, -, hin⟩ := hl a hp
  obtain ⟨ho, -, hne⟩ := rests_of_step hp h
  cases hi : a.inbound.phase with
  | waiting | writing | pinging => rw [Inbound.result?, hi]; exact .inl rfl
  | panicked => exact absurd hi hn
  | ended result =>
    have hir : a.inbound.result? ≠ none := by rw [Inbound.result?, hi]; exact Option.some_ne_none _
    have hor : a.outbound.result? = none := hne.resolve_right hir
    -- a pump that has ended has asked the other to stop, or was itself asked to
    have hs : (r.stop || a.stop) = true := by
      rw [Bool.or_eq_true]
      cases result with
      | error e => exact .inr (hstop.trans (Inbound.hasFailed_iff.2 ⟨e, hi⟩))
      | ok s =>
        refine (hin s hi).imp_right fun hsi => ?_
        rw [hstopIn, hor] at hsi
        cases hsi
    rw [hs] at ho
    exact .inr (ho.of_stop.resolve_left fun h => h hor)

/-- Where moreover no pump is held, the inbound pump waits for the server. -/
theorem waiting_of_step (hl : r.Linked) (hu : ¬ a.IsHeld r.channel) (hp : r.phase = .pumping a)
    (h : r.step = none) (hn : a.inbound.phase ≠ .panicked) :
    a.inbound.phase = .waiting ∧ r.channel.transport.inbox = [] := by
  have hi : a.inbound.result? = none := by
    rcases alive_of_step hl hp h hn with hi | ⟨p, hs, ht⟩
    · exact hi
    · exact absurd (.inl ⟨⟨p, hs⟩, ht⟩) hu
  rcases inbox_of_step hp h hi with hw | ⟨p, hw, -⟩ | ⟨hw, ht⟩
  · exact hw
  · have hstep := inboundStep_eq_none_iff.1 ((step_eq_none_iff hp).1 h).2.1
    exact absurd (.inr (Inbound.isHeld_of_writing hstep hw)) hu
  · exact absurd (.inr (.pinging hw ht)) hu

/-- A pump that waits for the server wakes before the server has been silent for too long. -/
theorem timer?_le (hp : r.phase = .pumping a) (hi : a.inbound.phase = .waiting) :
    ∃ w, r.timer? = some w ∧ w ≤ a.inbound.lastReceived + r.config.receiveTimeout.toNat := by
  obtain ⟨w, hw, hle⟩ := timer?_le_inbound hp (by rw [Inbound.timer?, hi])
  exact ⟨w, hw, hle.trans (Nat.min_le_left _ _)⟩

/-- The server was last heard of in the past, and not too long ago. -/
def InTime (r : Run) : Prop := ∀ a, r.phase = .pumping a → a.inbound.lastReceived ≤ r.now ∧
  (a.inbound.phase ≠ .panicked → r.now ≤ a.inbound.lastReceived + r.config.receiveTimeout.toNat)

theorem InTime.change (h : r.InTime) (hc : r.Change r') : r'.InTime := by
  have hnow := hc.now
  have hconfig := hc.sameTerms.config
  unfold InTime at h ⊢
  rw [hnow, hconfig]
  intro a' hp'
  cases hc with
  | resolved | unresolved | stopped | begins | wakes => cases hp'
  | fails | loses => exact absurd hp' (afterAttempt_ne_pumping _ _ _ _)
  | connects => cases hp'; exact ⟨Nat.le_refl _, fun _ => Nat.le_add_right _ _⟩
  | @outbound a _ _ hp => cases hp'; exact h a hp
  | @inbound a _ _ hp hm =>
    cases hp'
    obtain ⟨hle, hlt⟩ := h a hp
    rcases hm.lastReceived with ⟨e, -⟩ | ⟨e, -⟩
    · rw [e]; exact ⟨hle, fun _ => hlt hm.ne_panicked⟩
    · rw [e]; exact ⟨Nat.le_refl _, fun _ => Nat.le_add_right _ _⟩

theorem InTime.happen (h : r.InTime) (e : Event) : (r.happen e).InTime := by
  unfold InTime at h ⊢
  rw [happen_now, happen_config]
  intro a hp
  exact h a (phase_of_happen hp)

theorem InTime.moveClock (h : r.InTime) (hl : r.Linked) (hf : r.channel.IsFree) (hn : r.step = none)
    {t : Nat} (hle : r.now ≤ t) (ht : ∀ w, r.timer? = some w → t ≤ w) : (r.moveClock t).InTime := by
  intro a hp
  refine ⟨(h a hp).1.trans hle, ?_⟩
  intro hpan
  obtain ⟨w, hw, hwle⟩ := timer?_le hp (waiting_of_step hl (hf.not_isHeld a) hp hn hpan).1
  exact (ht w hw).trans hwle

theorem Leads.inTime {r₀ : Run} {es : List Event} (h₀ : r₀.IsFresh) (h : r₀.Leads es r)
    (hf : r₀.channel.IsFree) (hb : ∀ e ∈ es, e.blocks = false) : r.InTime := by
  induction h with
  | start => intro a hp; rw [h₀.phase] at hp; cases hp
  | event _ e ih => exact (ih fun e' he => hb e' (List.mem_append_left _ he)).happen e
  | does _ hd ih => exact (ih hb).change hd.change
  | clock hl hn hle ht ih =>
    exact (ih hb).moveClock (hl.linked h₀) (hl.isFree hf hb) hn hle ht

/-- The pump of the attempt that runs in `r₁` has not heard of the server since then, as long as that
attempt runs: what had arrived before was received in the same instant. -/
def SilentSince (r₁ : Run) : Run → Prop :=
  Within r₁.established fun _ i c => i.phase ≠ .panicked →
    i.lastReceived ≤ r₁.now ∧ (c.now = r₁.now ∨ c.transport.inbox = [])

theorem SilentSince.change (h : SilentSince r₁ r) (hc : r.Change r') : SilentSince r₁ r' := by
  refine Within.change h hc ?_ ?_
  · intro a o c hm hs
    rw [hm.now, hm.inbound_eq.1]
    exact hs
  · intro a i c hm hs _
    obtain ⟨hlast, hq⟩ := hs hm.ne_panicked
    rw [hm.now]
    rcases hm.lastReceived with ⟨e, e'⟩ | ⟨e, hne⟩
    · rw [e, e']; exact ⟨hlast, hq⟩
    · have hnow : r.channel.now = r₁.now := hq.resolve_right hne
      rw [e]
      exact ⟨Nat.le_of_eq hnow, .inl hnow⟩

theorem SilentSince.happen (h : SilentSince r₁ r) {e : Event} (he : e.datagram? = none) :
    SilentSince r₁ (r.happen e) := by
  refine Within.happen h e ?_
  intro a hp hs
  have hnow : (r.happen e).channel.now = r.channel.now := r.happen_now e
  rw [happen_inbox hp, arrivals_singleton, he, hnow]
  simpa using hs

theorem Leads.silentSince {r₀ : Run} {es es' : List Event} (h₀ : r₀.IsFresh) (h₁ : r₀.Leads es r₁)
    (h : r₁.Leads es' r) (hi : r₁.InTime) (hf : r₁.channel.IsFree)
    (he : ∀ e ∈ es', e.blocks = false ∧ e.datagram? = none) : SilentSince r₁ r := by
  induction h with
  | start => exact ⟨Nat.le_refl _, fun a hp _ _ => ⟨(hi a hp).1, .inl rfl⟩⟩
  | event _ e ih =>
    rw [List.forall_mem_append, List.forall_mem_singleton] at he
    exact (ih he.1).happen he.2.2
  | does _ hd ih => exact (ih he).change hd.change
  | clock hl hn _ _ ih =>
    obtain ⟨hle, hs⟩ := ih he
    refine ⟨hle, ?_⟩
    intro a hp hest hpan
    have hfree := hl.isFree hf fun e h => (he e h).1
    exact ⟨(hs a hp hest hpan).1,
      .inr (waiting_of_step ((h₁.trans hl).linked h₀) (hfree.not_isHeld a) hp hn hpan).2⟩

end

/-! ## The law of silence -/

/-- The stop of an attempt is requested exactly if its inbound pump has failed, and that pump ends
without a failure only if the connection was asked to stop or the outbound pump has ended; only
where writes panic can it be ended by one. Once the stop of the attempt is requested, the attempt
ends in the same instant, unless the outbound pump is in a send that waits; so wherever the
connection has nothing to do, the pump is alive or has panicked, or a send waits. Where no write and
no send waits, the attempt runs for no longer than the receive timeout after the server was last
heard of, unless the pump has panicked. -/
theorem Leads.silence_lawful {r₀ r : Run} {es : List Event} (h₀ : r₀.IsFresh) (h : r₀.Leads es r)
    {a : Attempt} (hp : r.phase = .pumping a) :
    (a.stop = true ↔ ∃ e, a.inbound.phase = .ended (.error e)) ∧
    (∀ s, a.inbound.phase = .ended (.ok s) → r.stop = true ∨ a.outbound.result? ≠ none) ∧
    (a.inbound.phase = .panicked → r₀.channel.wire.writesPanic = true) ∧
    (a.stop = true → r.channel.transport.isFull = false → r.Eventually (Unwound r a.device)) ∧
    (r.step = none → a.inbound.result? = none ∨ a.inbound.phase = .panicked ∨
      ∃ p, a.outbound.phase = .sending p ∧ r.channel.transport.isFull = true) ∧
    (r₀.channel.IsFree → (∀ e ∈ es, e.blocks = false) → a.inbound.phase ≠ .panicked →
      r.now ≤ a.inbound.lastReceived + r₀.config.receiveTimeout.toNat ∧
      ∀ es' r' a', r.Leads es' r' → r'.phase = .pumping a' → r'.established = r.established →
        a'.inbound.phase ≠ .panicked → (∀ e ∈ es', e.blocks = false ∧ e.datagram? = none) →
        r'.now ≤ r.now + r₀.config.receiveTimeout.toNat) := by
  have hl := h.linked h₀
  obtain ⟨hstop, hstopIn, -, hin⟩ := hl a hp
  have hfailed : a.stop = true ↔ ∃ e, a.inbound.phase = .ended (.error e) := by
    rw [hstop, Inbound.hasFailed_iff]
  have hasked : ∀ s, a.inbound.phase = .ended (.ok s) →
      r.stop = true ∨ a.outbound.result? ≠ none := by
    intro s hs
    refine (hin s hs).imp_right fun hsi => ?_
    rw [hstopIn, Option.isSome_iff_ne_none] at hsi
    exact hsi
  have hunwinds : a.stop = true → r.channel.transport.isFull = false →
      r.Eventually (Unwound r a.device) := by
    intro hs hf
    exact Unwinds.eventually ⟨hl, h.shows h₀, hf, rfl, rfl, a, hp, hs, rfl⟩
  have hrests : r.step = none → a.inbound.result? = none ∨ a.inbound.phase = .panicked ∨
      ∃ p, a.outbound.phase = .sending p ∧ r.channel.transport.isFull = true := by
    intro hn
    by_cases hpan : a.inbound.phase = .panicked
    · exact .inr (.inl hpan)
    · exact (alive_of_step hl hp hn hpan).imp_right .inr
  refine ⟨hfailed, hasked, (h.writesPanic h₀).2 a hp, hunwinds, hrests, ?_⟩
  intro hf hb hpan
  have htime := h.inTime h₀ hf hb
  rw [← h.sameTerms.config]
  refine ⟨(htime a hp).2 hpan, ?_⟩
  intro es' r' a' hl' hp' hest hpan' he
  -- the pump that still runs has not heard of the server since `r`
  have hfree := h.isFree hf hb
  have hb' : ∀ e ∈ es ++ es', e.blocks = false :=
    List.forall_mem_append.2 ⟨hb, fun e h => (he e h).1⟩
  have hlast := ((h.silentSince h₀ hl' htime hfree he).2 a' hp' hest hpan').1
  have hnow := ((h.trans hl').inTime h₀ hf hb' a' hp').2 hpan'
  rw [hl'.sameTerms.config] at hnow
  exact hnow.trans (Nat.add_le_add_right hlast _)

/-- The small run when the write of its first packet has failed. -/
def trialFailing : Run := ([.writeError, .serverSend [69, 1]].foldl happen trialConnected).settleWithin 2

/-- In the small run a write that fails brings its attempt down. -/
theorem trialFailing_silence : ∃ a, trialFailing.phase = .pumping a ∧ a.stop = true ∧
    trialFailing.Eventually (Unwound trialFailing a.device) ∧
    trialFailing.now ≤ a.inbound.lastReceived + 20000 := by
  have hl : trial.Leads [.run, .writeError, .serverSend [69, 1]] trialFailing :=
    ((trial_leads_connected.event .writeError).event (.serverSend [69, 1])).settleWithin 2
  have law {a : Attempt} (hp : trialFailing.phase = .pumping a) := hl.silence_lawful trial_isFresh hp
  obtain ⟨hstop, -, -, hunwinds, -, htime⟩ := law rfl
  have hs := hstop.2 ⟨Channel.writeFailure, rfl⟩
  have hb : ∀ e ∈ [Event.run, .writeError, .serverSend [69, 1]], e.blocks = false := by
    simp [Event.blocks]
  exact ⟨_, rfl, hs, hunwinds hs rfl, (htime ⟨rfl, rfl⟩ hb InboundPhase.noConfusion).1⟩

/-- The small run with an interface whose writes panic. -/
def trialPanicking : Run :=
  { trial with
    channel := { trial.channel with wire := { trial.channel.wire with writesPanic := true } } }

/-- That run when the server has sent a packet, and nothing more for longer than is allowed. -/
def trialSilent : Run :=
  ((((trialPanicking.happen .run).settleWithin 3).happen (.serverSend [69, 1])).settleWithin
    2).moveClock 30000

/-- A pump that a write has ended leaves its attempt up: no stop is requested, and the connection
still has its interface open and is connected when the server has been silent for too long. -/
theorem trialSilent_still_connected :
    trialPanicking.IsFresh ∧ trialPanicking.Leads [.run, .serverSend [69, 1]] trialSilent ∧
    trialSilent.state = .connected ∧ trialSilent.openDevice? = some "sim0" ∧
    trialSilent.stop = false ∧ ∃ a, trialSilent.phase = .pumping a ∧
      a.inbound.phase = .panicked ∧ a.stop = false ∧
      a.inbound.lastReceived + trialPanicking.config.receiveTimeout.toNat < trialSilent.now := by
  have hfresh : trialPanicking.IsFresh := by constructor <;> rfl
  have hl : trialPanicking.Leads [.run, .serverSend [69, 1]]
      ((((trialPanicking.happen .run).settleWithin 3).happen (.serverSend [69, 1])).settleWithin 2) :=
    (((Leads.start.event .run).settleWithin 3).event (.serverSend [69, 1])).settleWithin 2
  have hleads : trialPanicking.Leads [.run, .serverSend [69, 1]] trialSilent := by
    refine hl.clock rfl (by decide) ?_
    intro w hw
    cases (show none = some w from hw)
  exact ⟨hfresh, hleads, rfl, rfl, rfl, _, rfl, rfl, rfl, by decide⟩

end Run

end TunnelRelay.Relay
