import TunnelRelay.Proofs.InboundRuns
import TunnelRelay.Proofs.Silence
/-!
# How an inbound pump ends, and whom it tells

The pump of an attempt looks at a signal of its own under that of the attempt. `InboundRun.Signalled`
says at any time who is requested: whoever was before, whoever an event has reached since, and, once
the pump has failed, the attempt with all that is under it. That is read off the contract of the
signals. So a stop of the pump alone stays with
the pump, and a failure reaches the attempt in the step that ends the pump.
-/

namespace TunnelRelay.Relay

open SignalForest (tokenContract)

/-- The signal that an event requests, where `own` is that of the pump and `attempt` that of its
attempt. -/
def InboundEvent.target? (own attempt : Nat) : InboundEvent → Option Nat
  | .stop => some own
  | .stopAttempt => some attempt
  | .request signal => some signal
  | _ => none

/-- A pump that no panic has ended has failed exactly if its result is an error. -/
theorem Inbound.hasFailed_iff_result? {i : Inbound} (hp : i.phase ≠ .panicked) :
    i.hasFailed = true ↔ ∃ e, i.result? = some (.error e) := by
  rw [hasFailed_iff]
  unfold result?
  constructor
  · rintro ⟨e, he⟩
    exact ⟨e, by rw [he]⟩
  · rintro ⟨e, he⟩
    split at he
    · rename_i hr
      cases he
      exact ⟨e, hr⟩
    · rename_i hr
      exact absurd hr hp
    · cases he

namespace InboundRun

/-! ## Signals -/

/-- One of the events requests the signal `i` or one above it. -/
def RequestedBy (f : SignalForest) (own attempt : Nat) (es : List (Nat × InboundEvent)) (i : Nat) :
    Prop :=
  ∃ e ∈ es, ∃ j, e.2.target? own attempt = some j ∧ f.Above j i

/-- Who is requested in `r`, after the events `es` and possibly the end of the pump. -/
structure Signalled (r₀ : InboundRun) (es : List (Nat × InboundEvent))
    (ending? : Option (Nat × Except Error PumpStats)) (r : InboundRun) : Prop where
  own : r.own = r₀.own
  attempt : r.attempt = r₀.attempt
  ordered : r.signals.IsOrdered
  length : r.signals.signals.length = r₀.signals.signals.length
  above : ∀ j i, r.signals.Above j i ↔ r₀.signals.Above j i
  requested : ∀ i, i < r₀.signals.signals.length → (r.signals.isRequested i = true ↔
    r₀.signals.isRequested i = true ∨ RequestedBy r₀.signals r₀.own r₀.attempt es i ∨
      (∃ t e, ending? = some (t, .error e)) ∧ r₀.signals.Above r₀.attempt i)

variable {r₀ r r' : InboundRun} {es es' : List (Nat × InboundEvent)}
  {ending? ending?' : Option (Nat × Except Error PumpStats)}

theorem happen_signals (r : InboundRun) (e : InboundEvent) :
    (r.happen e).signals = match e.target? r.own r.attempt with
      | some i => r.signals.request i
      | none => r.signals := by
  cases e with
  | serverSend p => simp only [happen]; split <;> rfl
  | stop | stopAttempt | request => simp only [happen, request_eq]; rfl
  | strangerSend | serverClose | writeError | markSent | observe => rfl

/-- Where no write panics, a step requests the attempt exactly if it ends the pump with an error. -/
theorem Does.signals_eq (hd : r.Does r') (hw : r.channel.wire.writesPanic = false) :
    (∃ e, r'.pump.result? = some (.error e)) ∧ r'.signals = r.signals.request r.attempt ∨
      (∀ e, r'.pump.result? ≠ some (.error e)) ∧ r'.signals = r.signals := by
  have hp : r'.pump.phase ≠ .panicked := by
    intro hp
    rw [hd.moves.writesPanic hp] at hw
    cases hw
  have hiff := Inbound.hasFailed_iff_result? hp
  have hsignals := hd.signals
  by_cases hf : r'.pump.hasFailed = true
  · rw [if_pos hf] at hsignals
    exact .inl ⟨hiff.1 hf, hsignals⟩
  · rw [if_neg hf] at hsignals
    refine .inr ⟨?_, hsignals⟩
    intro e he
    exact hf (hiff.2 ⟨e, he⟩)

/-- A request of one more signal. -/
theorem Signalled.request {j : Nat} {signals : SignalForest} (h : Signalled r₀ es ending? r)
    (hs : signals = r.signals.request j) : signals.IsOrdered ∧
      signals.signals.length = r₀.signals.signals.length ∧
      (∀ j i, signals.Above j i ↔ r₀.signals.Above j i) ∧
      ∀ i, i < r₀.signals.signals.length → (signals.isRequested i = true ↔
        r.signals.isRequested i = true ∨ r₀.signals.Above j i) := by
  subst hs
  refine ⟨tokenContract.isTree_request j h.ordered,
    (tokenContract.size_request r.signals j).trans h.length, ?_, ?_⟩
  · intro k i
    rw [tokenContract.above_request h.ordered, h.above]
  · intro i hi
    rw [← h.above]
    constructor
    · exact tokenContract.spares h.ordered
    · rintro (hr | ha)
      · exact tokenContract.sticky j h.ordered hr
      · have hle := tokenContract.le_of_above h.ordered ha
        refine tokenContract.reaches h.ordered ?_ ha
        rw [h.length]
        omega

theorem Signalled.happen (h : Signalled r₀ es ending? r) (e : InboundEvent) :
    Signalled r₀ (es ++ [(r.now, e)]) ending? (r.happen e) := by
  have hsplit (i : Nat) : RequestedBy r₀.signals r₀.own r₀.attempt (es ++ [(r.now, e)]) i ↔
      RequestedBy r₀.signals r₀.own r₀.attempt es i ∨
        ∃ j, e.target? r₀.own r₀.attempt = some j ∧ r₀.signals.Above j i := by
    unfold RequestedBy
    simp only [List.mem_append, List.mem_singleton, or_and_right, exists_or, exists_eq_left]
  have hs := r.happen_signals e
  rw [h.own, h.attempt] at hs
  cases ht : e.target? r₀.own r₀.attempt with
  | none =>
    rw [ht] at hs
    refine ⟨(r.happen_own e).trans h.own, (r.happen_attempt e).trans h.attempt, hs ▸ h.ordered,
      hs ▸ h.length, hs ▸ h.above, ?_⟩
    intro i hi
    rw [hs, hsplit, h.requested i hi, ht]
    simp
  | some j =>
    rw [ht] at hs
    obtain ⟨ho, hl, ha, hr⟩ := h.request hs
    refine ⟨(r.happen_own e).trans h.own, (r.happen_attempt e).trans h.attempt, ho, hl, ha, ?_⟩
    intro i hi
    rw [hr i hi, hsplit, h.requested i hi, ht]
    simp only [Option.some.injEq, exists_eq_left']
    rw [or_assoc, or_right_comm]

theorem Signalled.does (h : Signalled r₀ es none r) (hd : r.Does r')
    (hw : r.channel.wire.writesPanic = false) :
    Signalled r₀ es (r'.pump.result?.map (Prod.mk r.now)) r' := by
  rcases hd.signals_eq hw with ⟨⟨x, hx⟩, hs⟩ | ⟨hno, hs⟩
  · obtain ⟨ho, hl, ha, hr⟩ := h.request (hs.trans (by rw [h.attempt]))
    refine ⟨hd.own.trans h.own, hd.attempt.trans h.attempt, ho, hl, ha, ?_⟩
    intro i hi
    rw [hr i hi, h.requested i hi, hx]
    simp [or_assoc]
  · refine ⟨hd.own.trans h.own, hd.attempt.trans h.attempt, hs ▸ h.ordered, hs ▸ h.length,
      hs ▸ h.above, ?_⟩
    intro i hi
    rw [hs, h.requested i hi]
    simp [hno]

theorem Leads.signalled (h : r₀.Leads es ending? r) (ho : r₀.signals.IsOrdered)
    (hn : r₀.pump.result? = none) (hw : r₀.channel.wire.writesPanic = false) :
    Signalled r₀ es ending? r := by
  induction h with
  | start => exact ⟨rfl, rfl, ho, rfl, fun _ _ => .rfl, by simp [RequestedBy]⟩
  | event _ e ih => exact ih.happen e
  | step hr hs hnone ih =>
    rw [hr.ending?_eq_none hn hs] at ih ⊢
    have hd := ih.does (does_of_step hs) (hr.flags.2.2.2.trans hw)
    rw [hnone] at hd
    exact hd
  | finish hr hs hx ih =>
    rw [hr.ending?_eq_none hn hs] at ih
    have hd := ih.does (does_of_step hs) (hr.flags.2.2.2.trans hw)
    rw [hx] at hd
    exact hd
  | clock _ _ _ _ ih => exact ⟨ih.own, ih.attempt, ih.ordered, ih.length, ih.above, ih.requested⟩

/-- Where no write panics, a pump fails by the silence of the server, a refused operation or a failed
write. -/
theorem Leads.failure_cases (h : r₀.Leads es ending? r) (hw : r₀.channel.wire.writesPanic = false)
    {t : Nat} {x : Error} (he : ending? = some (t, .error x)) :
    x = .serverGone r₀.config.receiveTimeout ∨ x = Channel.refusal ∨ x = Channel.writeFailure := by
  induction h with
  | start => cases he
  | event _ _ ih | step _ _ _ ih | clock _ _ _ _ ih => exact ih he
  | finish hr hs hx =>
    cases he
    obtain ⟨hconfig, -, -, hpanic⟩ := hr.flags
    rw [← hconfig]
    cases (does_of_step hs).moves.ends hx with
    | silent => exact .inl rfl
    | refused => exact .inr (.inl rfl)
    | writeFailed => exact .inr (.inr rfl)
    | panicked hp =>
      rw [hpanic, hw] at hp
      cases hp

/-- A stop of the pump stays with the pump, unless its signal is above that of the attempt. -/
theorem Signalled.happen_stop (h : Signalled r₀ es ending? r)
    (hno : ¬ r₀.signals.Above r₀.own r₀.attempt) :
    (r.happen .stop).attemptRequested = r.attemptRequested := by
  rw [attemptRequested, attemptRequested, happen_attempt, r.happen_signals, Bool.eq_iff_iff]
  show (r.signals.request r.own).isRequested r.attempt = true ↔ _
  rw [h.own, h.attempt]
  constructor
  · intro hr
    refine (tokenContract.spares h.ordered hr).resolve_right ?_
    rw [h.above]
    exact hno
  · exact tokenContract.sticky _ h.ordered

/-! ## When -/

theorem Leads.time_le (h : r₀.Leads es ending? r) : ∀ e ∈ es, e.1 ≤ r.now := by
  induction h with
  | start => exact fun _ he => nomatch he
  | @event _ _ r _ e ih =>
    rw [List.forall_mem_append, List.forall_mem_singleton, happen_now]
    exact ⟨ih, Nat.le_refl r.now⟩
  | step _ hs _ ih | finish _ hs _ ih =>
    rw [(does_of_step hs).now]
    exact ih
  | clock _ _ hle _ ih => exact fun e he => (ih e he).trans hle

/-- A pump that ends without an error had been asked to by then. -/
theorem Leads.asked (h : r₀.Leads es ending? r) (ho : r₀.signals.IsOrdered)
    (hi : r₀.own < r₀.signals.signals.length) (hn : r₀.pump.result? = none)
    (hw : r₀.channel.wire.writesPanic = false) {t : Nat} {s : PumpStats}
    (he : ending? = some (t, .ok s)) : r₀.signals.isRequested r₀.own = true ∨
      ∃ e ∈ es, e.1 ≤ t ∧ ∃ j, e.2.target? r₀.own r₀.attempt = some j ∧ r₀.signals.Above j r₀.own := by
  induction h with
  | start => cases he
  | event _ e ih =>
    refine (ih he).imp_right ?_
    rintro ⟨e', he', hask⟩
    exact ⟨e', List.mem_append_left _ he', hask⟩
  | step hr hs _ ih => exact ih he
  | clock _ _ _ _ ih => exact ih he
  | @finish es ending? r r' hr hs x hx _ =>
    cases he
    have hsig := hr.signalled ho hn hw
    rw [hr.ending?_eq_none hn hs] at hsig
    have hstop : r.signals.isRequested r₀.own = true := by
      rw [← hsig.own]
      cases (does_of_step hs).moves.ends hx with
      | stopped hstop => exact hstop
    rcases (hsig.requested r₀.own hi).1 hstop with hold | ⟨e, hmem, hask⟩ | ⟨⟨_, _, hend⟩, -⟩
    · exact .inl hold
    · exact .inr ⟨e, hmem, hr.time_le e hmem, hask⟩
    · cases hend

/-- The request of the attempt is noted when it is made, and kept. -/
def Notes (r r' : InboundRun) : Prop :=
  r'.requestedAt = r.requestedAt ∨ r.requestedAt = none ∧ r'.requestedAt = some r.now

theorem notes_happen (r : InboundRun) (e : InboundEvent) : r.Notes (r.happen e) := by
  unfold Notes
  cases e with
  | serverSend p => simp only [happen]; split <;> exact .inl rfl
  | stop | stopAttempt | request =>
    simp only [happen, request_eq]
    split
    · rename_i hr; exact .inr ⟨hr.2, rfl⟩
    · exact .inl rfl
  | strangerSend | serverClose | writeError | markSent | observe => exact .inl rfl

theorem Does.notes (hd : r.Does r') : r.Notes r' := by
  unfold Notes
  rw [hd.requestedAt]
  split
  · rename_i hr; exact .inr ⟨hr.2.2, rfl⟩
  · exact .inl rfl

theorem Notes.le_now (h : r.Notes r') (hle : ∀ t, r.requestedAt = some t → t ≤ r.now) :
    ∀ t, r'.requestedAt = some t → t ≤ r.now := by
  intro t ht
  rcases h with heq | ⟨-, heq⟩
  · exact hle t (heq ▸ ht)
  · rw [heq] at ht
    cases ht
    exact Nat.le_refl r.now

/-- A step that ends the pump with an error requests the attempt, if nobody has before. -/
theorem Does.requestedAt_ne_none (hd : r.Does r') (hw : r.channel.wire.writesPanic = false)
    (ho : r.signals.IsOrdered) (ha : r.attempt < r.signals.signals.length) {x : Error}
    (hx : r'.pump.result? = some (.error x)) :
    r'.attemptRequested = true ∧ r'.requestedAt ≠ none := by
  have hfail : r'.pump.hasFailed = true := by
    refine (Inbound.hasFailed_iff_result? ?_).2 ⟨x, hx⟩
    intro hp
    rw [hd.moves.writesPanic hp] at hw
    cases hw
  have hreq : r'.attemptRequested = true := by
    rw [attemptRequested, hd.signals, if_pos hfail, hd.attempt]
    exact tokenContract.reaches ho ha .self
  refine ⟨hreq, ?_⟩
  rw [hd.requestedAt]
  by_cases hnone : r.requestedAt = none
  · rw [if_pos ⟨hfail, hreq, hnone⟩]
    exact Option.some_ne_none r.now
  · rw [if_neg fun h => hnone h.2.2]
    exact hnone

/-- The request of the attempt is noted no later than the end of a pump that has failed. -/
theorem Leads.requestedAt_le (h : r₀.Leads es ending? r) (ho : r₀.signals.IsOrdered)
    (ha : r₀.attempt < r₀.signals.signals.length) (hn : r₀.pump.result? = none)
    (hw : r₀.channel.wire.writesPanic = false) (hle : ∀ t, r₀.requestedAt = some t → t ≤ r₀.now) :
    (∀ t, r.requestedAt = some t → t ≤ r.now) ∧
      ∀ t x, ending? = some (t, .error x) → ∃ t₀, t₀ ≤ t ∧ r.requestedAt = some t₀ := by
  induction h with
  | start => exact ⟨hle, nofun⟩
  | @event _ _ r _ e ih =>
    have hnotes := r.notes_happen e
    rw [happen_now]
    refine ⟨hnotes.le_now ih.1, ?_⟩
    intro t x he
    obtain ⟨t₀, hle, ht⟩ := ih.2 t x he
    rcases hnotes with heq | ⟨hnone, -⟩
    · exact ⟨t₀, hle, heq.trans ht⟩
    · rw [hnone] at ht
      cases ht
  | step hr hs hnone ih =>
    have hd := does_of_step hs
    rw [hd.now, hr.ending?_eq_none hn hs]
    exact ⟨hd.notes.le_now ih.1, nofun⟩
  | finish hr hs hx ih =>
    have hd := does_of_step hs
    have hsig := hr.signalled ho hn hw
    have hle' := hd.notes.le_now ih.1
    rw [hd.now]
    refine ⟨hle', ?_⟩
    intro t x he
    cases he
    obtain ⟨-, hne⟩ := hd.requestedAt_ne_none (hr.flags.2.2.2.trans hw) hsig.ordered
      (by rw [hsig.attempt, hsig.length]; exact ha) hx
    obtain ⟨t₀, ht⟩ := Option.ne_none_iff_exists'.1 hne
    exact ⟨t₀, hle' t₀ ht, ht⟩
  | clock _ _ hle _ ih => exact ⟨fun t ht => (ih.1 t ht).trans hle, ih.2⟩

/-! ## After the end -/

/-- Nothing that happens to a pump that has ended makes it send or deliver. -/
theorem Leads.of_ended (h : r₀.Leads es ending? r) (hn : r₀.pump.result? ≠ none) :
    r.pump = r₀.pump ∧ r.channel.sent = r₀.channel.sent ∧
      r.channel.delivered = r₀.channel.delivered := by
  have never {r r' : InboundRun} (hp : r.pump = r₀.pump) (hs : r.step = some r') : False := by
    apply hn
    rw [← hp]
    exact (does_of_step hs).moves.result?_eq_none
  induction h with
  | start => exact ⟨rfl, rfl, rfl⟩
  | @event _ _ r _ e ih =>
    obtain ⟨_, _, _, _, he, -, hs, hd, -⟩ := r.happen_eq e
    rw [he]
    exact ⟨ih.1, hs.trans ih.2.1, hd.trans ih.2.2⟩
  | step _ hs _ ih | finish _ hs _ ih => exact (never ih.1 hs).elim
  | clock _ _ _ _ ih => exact ih

/-! ## Asked before the start -/

/-- The pump waits for whatever comes first, and was asked to stop. -/
structure IsAsked (r : InboundRun) : Prop where
  ordered : r.signals.IsOrdered
  own_lt : r.own < r.signals.signals.length
  waiting : r.pump.phase = .waiting
  writesPanic : r.channel.wire.writesPanic = false
  requested : r.signals.isRequested r.own = true

theorem IsAsked.result?_eq_none (h₀ : r₀.IsAsked) : r₀.pump.result? = none := by
  rw [Inbound.result?, h₀.waiting]

/-- As long as it still waits, the only thing that such a pump can do is to end. -/
theorem IsAsked.step_eq (h₀ : r₀.IsAsked) (h : r₀.Leads es ending? r) (hp : r.pump = r₀.pump) :
    r.step = some { r with pump := r₀.pump.finish } := by
  have hsig := h.signalled h₀.ordered h₀.result?_eq_none h₀.writesPanic
  have hstop : r.signals.isRequested r.own = true := by
    rw [hsig.own]
    exact (hsig.requested r₀.own h₀.own_lt).2 (.inl h₀.requested)
  unfold step Inbound.step
  rw [hp, h₀.waiting, hstop]
  rfl

/-- A pump that was asked to stop before it started has received, sent and delivered nothing. -/
structure Refrains (r₀ : InboundRun) (es : List (Nat × InboundEvent))
    (ending? : Option (Nat × Except Error PumpStats)) (r : InboundRun) : Prop where
  waits : ending? = none → r.pump = r₀.pump ∧ r.now = r₀.now
  ends : ∀ x, ending? = some x → x = (r₀.now, .ok r₀.pump.stats)
  sent : r.channel.sent = r₀.channel.sent
  delivered : r.channel.delivered = r₀.channel.delivered
  inbox : r.channel.transport.inbox =
    r₀.channel.transport.inbox ++ (arrivals r₀.channel.serverOpen es).map Prod.snd

theorem IsAsked.refrains (h₀ : r₀.IsAsked) (h : r₀.Leads es ending? r) :
    Refrains r₀ es ending? r := by
  have hn := h₀.result?_eq_none
  induction h with
  | start =>
    refine ⟨fun _ => ⟨rfl, rfl⟩, ?_, rfl, rfl, ?_⟩
    · intro x hx
      cases hx
    · rw [arrivals_nil, List.map_nil, List.append_nil]
  | @event es ending? r hr e ih =>
    obtain ⟨_, _, _, _, he, -, hsent, hdel, -⟩ := r.happen_eq e
    refine ⟨?_, ih.ends, ?_, ?_, ?_⟩
    · rw [happen_pump, happen_now]
      exact ih.waits
    · rw [he]
      exact hsent.trans ih.sent
    · rw [he]
      exact hdel.trans ih.delivered
    · rw [(r.happen_inbox e).1, ih.inbox, arrivals_concat, List.map_append, hr.serverOpen,
        List.append_assoc]
      congr 2
      split
      · cases e.datagram? <;> rfl
      · rfl
  | step hr hs hnone ih =>
    obtain ⟨hpump, -⟩ := ih.waits (hr.ending?_eq_none hn hs)
    rw [h₀.step_eq hr hpump] at hs
    cases hs
    cases hnone
  | @finish _ _ r _ hr hs _ hx ih =>
    obtain ⟨hpump, hnow⟩ := ih.waits (hr.ending?_eq_none hn hs)
    rw [h₀.step_eq hr hpump] at hs
    cases hs
    cases hx
    refine ⟨?_, ?_, ih.sent, ih.delivered, ih.inbox⟩
    · intro hx
      cases hx
    · intro x hx
      cases hx
      rw [hnow]
  | clock hr hs hle ht ih =>
    -- the clock does not move before the pump has ended
    refine ⟨?_, ih.ends, ih.sent, ih.delivered, ih.inbox⟩
    intro he
    rw [h₀.step_eq hr (ih.waits he).1] at hs
    cases hs

/-! ## The law of outcomes -/

/-- How the pump of an attempt ends and whom it tells, where writes to the interface do not panic.
What it is joined with is what it has ended with. Without an error it ends only if its own signal,
that of the attempt or one above was requested by then. With an error it ends by the silence of the
server, a refused operation or a failed write, and the step that ends it requests the attempt in the
same instant; no other step requests anything. So of the signals that were there before the pump,
those are requested that were already, that an event has reached, or that are the attempt's or below
once the pump has failed; a stop of the pump alone is none of these. After its end the pump sends and
delivers nothing. A pump whose attempt was requested before ends at once, with nothing counted, and
has received, sent and delivered nothing. -/
theorem Leads.outcome_lawful {f : SignalForest} {attempt : Nat} {config : InboundConfig}
    {c : Channel} (ho : f.IsOrdered) (ha : attempt < f.signals.length)
    (hw : c.wire.writesPanic = false) (h : (spawn f attempt config c).Leads es ending? r) :
    r.pump.result? = ending?.map Prod.snd ∧
    (∀ t s, ending? = some (t, .ok s) → f.isRequested attempt = true ∨ ∃ e ∈ es, e.1 ≤ t ∧
      ∃ j, e.2.target? r.own attempt = some j ∧ (j = r.own ∨ f.Above j attempt)) ∧
    (∀ t x, ending? = some (t, .error x) →
      (x = .serverGone config.receiveTimeout ∨ x = Channel.refusal ∨ x = Channel.writeFailure) ∧
      r.attemptRequested = true ∧ ∃ t₀, t₀ ≤ t ∧ r.requestedAt = some t₀) ∧
    (∀ r', r.step = some r' → r'.now = r.now ∧
      ((∃ x, r'.pump.result? = some (.error x)) ∧ r'.attemptRequested = true ∨
        (∀ x, r'.pump.result? ≠ some (.error x)) ∧ r'.signals = r.signals)) ∧
    (∀ i, i < f.signals.length → (r.signals.isRequested i = true ↔ f.isRequested i = true ∨
      RequestedBy f r.own attempt es i ∨
      (∃ t x, ending? = some (t, .error x)) ∧ f.Above attempt i)) ∧
    (r.happen .stop).attemptRequested = r.attemptRequested ∧
    (ending? ≠ none → ∀ es' ending?' r', r.Leads es' ending?' r' → r'.pump = r.pump ∧
      r'.channel.sent = r.channel.sent ∧ r'.channel.delivered = r.channel.delivered) ∧
    (f.isRequested attempt = true →
      (ending? = none → ∃ r', r.step = some r' ∧ r'.now = c.now ∧ r'.pump.result? = some (.ok {})) ∧
      (∀ x, ending? = some x → x = (c.now, .ok {})) ∧
      r.channel.sent = c.sent ∧ r.channel.delivered = c.delivered ∧
      r.channel.transport.inbox =
        c.transport.inbox ++ (arrivals c.serverOpen es).map Prod.snd) := by
  have hg : (f.child attempt).1.IsOrdered := tokenContract.isTree_child ho ha
  have hlen : (f.child attempt).1.signals.length = f.signals.length + 1 :=
    tokenContract.size_child f attempt
  have hown : f.signals.length < (f.child attempt).1.signals.length := by omega
  have hattempt : attempt < (f.child attempt).1.signals.length := by omega
  rw [spawn_eq] at h
  have hsig := h.signalled hg rfl hw
  have hr : r.own = f.signals.length := hsig.own
  have hra : r.attempt = attempt := hsig.attempt
  have hresult := h.result? rfl
  have hpanic : r.channel.wire.writesPanic = false := h.flags.2.2.2.trans hw
  rw [hr]
  refine ⟨hresult, ?_, ?_, ?_, ?_, ?_, ?_, ?_⟩
  · intro t s he
    rcases h.asked hg hown rfl hw he with hreq | ⟨e, hmem, hle, j, hj, habove⟩
    · exact .inl ((tokenContract.inherits ho ha).symm.trans hreq)
    · exact .inr ⟨e, hmem, hle, j, hj,
        (tokenContract.above_child_self ho ha).1 habove⟩
  · intro t x he
    refine ⟨h.failure_cases hw he, ?_, ?_⟩
    · rw [attemptRequested, hra]
      exact (hsig.requested attempt hattempt).2 (.inr (.inr ⟨⟨t, x, he⟩, .self⟩))
    · refine (h.requestedAt_le hg hattempt rfl hw ?_).2 t x he
      intro t' ht'
      dsimp only at ht'
      split at ht' <;> cases ht'
      exact Nat.le_refl c.now
  · intro r' hs
    have hd := does_of_step hs
    refine ⟨hd.now, (hd.signals_eq hpanic).imp_left ?_⟩
    rintro ⟨⟨x, hx⟩, -⟩
    refine ⟨⟨x, hx⟩, (hd.requestedAt_ne_none hpanic hsig.ordered ?_ hx).1⟩
    rw [hra, hsig.length]
    exact hattempt
  · intro i hi
    rw [hsig.requested i (Nat.lt_trans hi hown)]
    dsimp only
    unfold RequestedBy
    simp only [tokenContract.above_child ho attempt hi,
      tokenContract.keeps ho ha hi]
  · exact hsig.happen_stop (tokenContract.not_above_child ho ha)
  · intro hend es' ending?' r' h'
    refine h'.of_ended ?_
    rw [hresult]
    exact fun hn => hend (Option.map_eq_none_iff.1 hn)
  · intro hreq
    have hstop : (f.child attempt).1.isRequested f.signals.length = true :=
      (tokenContract.inherits ho ha).trans hreq
    have hasked : (spawn f attempt config c).IsAsked := by
      rw [spawn_eq]
      exact ⟨hg, hown, rfl, hw, hstop⟩
    rw [spawn_eq] at hasked
    have href := hasked.refrains h
    refine ⟨?_, href.ends, href.sent, href.delivered, href.inbox⟩
    intro he
    obtain ⟨hpump, hnow⟩ := href.waits he
    exact ⟨_, hasked.step_eq h hpump, hnow, rfl⟩

/-- The pump of a small run. A packet waits for it. -/
def trialSpawn : InboundRun :=
  spawn .new 0 ⟨60, 110⟩ (.connected 0 0 {} ⟨.waits, [], 0, 0, false, false⟩ [[69, 1]])

/-- The write of that packet fails, which ends the pump and requests its attempt. -/
theorem trialSpawn_fails : ∃ r,
    trialSpawn.Leads [(0, .writeError)] (some (0, .error Channel.writeFailure)) r ∧
      r.pump.result? = some (.error Channel.writeFailure) ∧ r.attemptRequested = true := by
  have fresh : trialSpawn.Leads [] none trialSpawn := .start
  have writing := (fresh.event .writeError).step rfl rfl
  have failed := writing.finish rfl rfl
  obtain ⟨hresult, -, herror, -⟩ :=
    Leads.outcome_lawful tokenContract.isTree_new Nat.zero_lt_one rfl failed
  exact ⟨_, failed, hresult, (herror 0 _ rfl).2.1⟩

end InboundRun

end TunnelRelay.Relay
