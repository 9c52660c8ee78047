import TunnelRelay.Proofs.Stopping
/-!
# Where the pumps of an attempt are suspended

A pump is suspended where it reads, pauses or waits for the server, and in an operation that has to
wait: a write to the interface or a send. A stop reaches the first three. An operation does not look
at the stop, so a pump that is held by one (`Attempt.IsHeld`) keeps its attempt up after a stop, for
as long as nothing lets that operation go on. The main statement is that this is the only exception:
with no pump held, a stop ends the connection in its own instant.
-/

namespace TunnelRelay.Relay

/-! ## Operations that hold a pump -/

/-- The outbound pump is in a send that has to wait. -/
structure Outbound.IsHeld (o : Outbound) (c : Channel) : Prop where
  sending : ∃ p, o.phase = .sending p
  full : c.transport.isFull = true

/-- The inbound pump is in an operation that has to wait. A write that panics or fails does not. -/
inductive Inbound.IsHeld (i : Inbound) (c : Channel) : Prop
  | writing {p : Packet} (hp : i.phase = .writing p) (hn : c.wire.isFull = true)
    (hw : c.wire.writesPanic = false) (hf : c.wire.failingWrites = 0)
  | pinging (hp : i.phase = .pinging) (hf : c.transport.isFull = true)

/-- One of the pumps of an attempt is in an operation that has to wait. -/
def Attempt.IsHeld (a : Attempt) (c : Channel) : Prop := a.outbound.IsHeld c ∨ a.inbound.IsHeld c

/-- Whether an event lets an operation go on that has to wait. -/
def Event.releases : Event → Bool
  | .wireFull b | .transportFull b => !b
  | .writeError => true
  | _ => false

/-- What decides whether an operation has to wait is the same in both channels. -/
structure Channel.SameHold (c c' : Channel) : Prop where
  wire : c'.wire.isFull = c.wire.isFull
  transport : c'.transport.isFull = c.transport.isFull
  panics : c'.wire.writesPanic = c.wire.writesPanic
  failing : c'.wire.failingWrites = c.wire.failingWrites

section
variable {stop : Bool} {o o' : Outbound} {i i' : Inbound} {c c' : Channel}

theorem Channel.SameHold.outbound (h : c.SameHold c') : o.IsHeld c' ↔ o.IsHeld c := by
  constructor
  · intro hheld
    exact ⟨hheld.sending, h.transport ▸ hheld.full⟩
  · intro hheld
    exact ⟨hheld.sending, h.transport.trans hheld.full⟩

theorem Channel.SameHold.inbound (h : c.SameHold c') : i.IsHeld c' ↔ i.IsHeld c := by
  constructor
  · intro hheld
    cases hheld with
    | writing hp hn hw hf =>
      exact .writing hp (h.wire ▸ hn) (h.panics ▸ hw) (h.failing ▸ hf)
    | pinging hp hf => exact .pinging hp (h.transport ▸ hf)
  · intro hheld
    cases hheld with
    | writing hp hn hw hf =>
      exact .writing hp (h.wire.trans hn) (h.panics.trans hw) (h.failing.trans hf)
    | pinging hp hf => exact .pinging hp (h.transport.trans hf)

/-- The outbound pump touches nothing that an operation waits for. -/
theorem Outbound.Moves.sameHold {idle : Nat} (h : o.Moves stop idle c o' c') : c.SameHold c' := by
  cases h <;> exact ⟨rfl, rfl, rfl, rfl⟩

/-- The inbound pump touches nothing that a send waits for. -/
theorem Inbound.Moves.outbound_isHeld {config : InboundConfig} (h : i.Moves stop config c i' c') :
    o.IsHeld c' ↔ o.IsHeld c := by
  have hfull : c'.transport.isFull = c.transport.isFull := h.flags.2.1
  constructor
  · intro hheld
    exact ⟨hheld.sending, hfull ▸ hheld.full⟩
  · intro hheld
    exact ⟨hheld.sending, hfull.trans hheld.full⟩

/-! ## Pumps that are held -/

/-- A pump that is held makes no step. -/
theorem Outbound.IsHeld.not_moves {idle : Nat} (h : o.IsHeld c) : ¬ o.Moves stop idle c o' c' := by
  obtain ⟨⟨p, hp⟩, hfull⟩ := h
  intro hm
  cases hm with
  | stopped _ hp' =>
    rcases hp' with hp' | ⟨w, hp'⟩
    · rw [hp] at hp'; cases hp'
    · rw [hp] at hp'; cases hp'
  | readFailed _ hp' | foundEmpty _ hp' | tookEmpty _ hp' | took _ hp' | woke _ hp' =>
    rw [hp] at hp'; cases hp'
  | refused _ hf | sent _ hf => rw [hfull] at hf; cases hf

theorem Inbound.IsHeld.not_moves {config : InboundConfig} (h : i.IsHeld c) :
    ¬ i.Moves stop config c i' c' := by
  intro hm
  cases h with
  | writing hp hn hw hf =>
    cases hm with
    | stopped hp' | silent hp' | refused hp' | received hp' | due hp' | pingRefused hp'
    | pinged hp' => rw [hp] at hp'; cases hp'
    | panicked _ hw' => rw [hw] at hw'; cases hw'
    | writeFailed _ _ hf' => rw [hf] at hf'; cases hf'
    | written _ _ _ hn' => rw [hn] at hn'; cases hn'
  | pinging hp hf =>
    cases hm with
    | stopped hp' | silent hp' | refused hp' | received hp' | due hp' | panicked hp'
    | writeFailed hp' | written hp' => rw [hp] at hp'; cases hp'
    | pingRefused _ hf' | pinged _ hf' => rw [hf] at hf'; cases hf'

/-- A pump that is held has not ended. -/
theorem Outbound.IsHeld.result?_eq_none (h : o.IsHeld c) : o.result? = none := by
  obtain ⟨⟨p, hp⟩, -⟩ := h
  rw [Outbound.result?, hp]

theorem Inbound.IsHeld.result?_eq_none (h : i.IsHeld c) : i.result? = none := by
  cases h with
  | writing hp => rw [Inbound.result?, hp]
  | pinging hp => rw [Inbound.result?, hp]

/-! ## Pumps that are not held -/

/-- A pump that is asked to stop and can do nothing has ended or is held. -/
theorem Outbound.isHeld_of_step {idle : Nat} (h : o.step true idle c = none) :
    o.result? ≠ none ∨ o.IsHeld c := by
  rcases (Outbound.rests_of_step h).of_stop with hr | ⟨p, hp, hf⟩
  · exact .inl hr
  · exact .inr ⟨⟨p, hp⟩, hf⟩

/-- A write that comes to no end has neither panicked nor failed. -/
theorem Inbound.isHeld_of_writing {config : InboundConfig} {p : Packet}
    (h : i.step stop config c = none) (hp : i.phase = .writing p) : i.IsHeld c := by
  unfold Inbound.step Channel.write at h
  rw [hp] at h
  dsimp only at h
  by_cases hw : c.wire.writesPanic = true
  · rw [if_pos hw] at h; cases h
  rw [if_neg hw] at h
  cases hf : c.wire.failingWrites with
  | succ n => rw [hf] at h; cases h
  | zero =>
    rw [hf] at h
    dsimp only at h
    by_cases hn : c.wire.isFull = true
    · exact .writing hp hn (by simpa using hw) hf
    · rw [if_neg hn] at h; cases h

theorem Inbound.isHeld_of_step {config : InboundConfig} (h : i.step true config c = none) :
    i.result? ≠ none ∨ i.IsHeld c := by
  rcases (Inbound.rests_of_step h).of_stop with hr | ⟨p, hp, -⟩ | ⟨hp, hf⟩
  · exact .inl hr
  · exact .inr (Inbound.isHeld_of_writing h hp)
  · exact .inr (.pinging hp hf)

/-- Where no operation has to wait, no pump is held. -/
theorem Channel.IsFree.not_isHeld (h : c.IsFree) (a : Attempt) : ¬ a.IsHeld c := by
  rintro (ho | hi)
  · cases h.transport.symm.trans ho.full
  · cases hi with
    | writing _ hn => rw [h.wire] at hn; cases hn
    | pinging _ hf => rw [h.transport] at hf; cases hf

/-- A pump that is asked to stop begins no operation. -/
theorem Outbound.Moves.not_isHeld {idle : Nat} (h : o.Moves true idle c o' c') : ¬ o'.IsHeld c' := by
  rintro ⟨⟨p, hp⟩, -⟩
  cases h with
  | stopped | refused | sent => cases hp
  | readFailed hs | foundEmpty hs | tookEmpty hs | took hs | woke hs => cases hs

theorem Inbound.Moves.not_isHeld {config : InboundConfig} (h : i.Moves true config c i' c') :
    ¬ i'.IsHeld c' := by
  intro hheld
  cases hheld with
  | writing hp =>
    cases h with
    | stopped | panicked | writeFailed | written | pingRefused | pinged => cases hp
    | silent _ hs | refused _ hs | received _ hs | due _ hs => cases hs
  | pinging hp =>
    cases h with
    | stopped | panicked | writeFailed | written | pingRefused | pinged => cases hp
    | silent _ hs | refused _ hs | received _ hs | due _ hs => cases hs

end

namespace Run

section
variable {r r' r₁ : Run} {device : String}

/-! ## A stop that is not seen -/

/-- The attempt that opened `device` in `r₁` is held, and nothing has been asked of the host
since. -/
structure Held (r₁ : Run) (device : String) (r : Run) : Prop where
  calls : r.calls = r₁.calls
  shows : r.phase.Shows r.state
  pumps : ∃ a, r.phase = .pumping a ∧ a.IsHeld r.channel ∧ a.device = device

/-- An attempt that is held can go on in its other pump only, and is held afterwards. -/
theorem Held.change (h : Held r₁ device r) (hc : r.Change r') : Held r₁ device r' := by
  obtain ⟨a, hp, hheld, hd⟩ := h.pumps
  have hshow := hc.shows h.shows
  cases hc with
  | resolved hp' | unresolved hp' | begins hp' | fails hp' | connects hp' | wakes hp' =>
    rw [hp] at hp'; cases hp'
  | stopped hp' =>
    rw [hp] at hp'
    rcases hp' with hp' | ⟨_, _, hp'⟩ | ⟨_, _, _, hp'⟩ <;> cases hp'
  | outbound hp' hm =>
    rw [hp] at hp'
    cases hp'
    have hin : a.inbound.IsHeld r.channel := hheld.resolve_left fun ho => ho.not_moves hm
    exact ⟨h.calls, hshow, _, rfl, .inr (hm.sameHold.inbound.2 hin), hd⟩
  | inbound hp' hm =>
    rw [hp] at hp'
    cases hp'
    have hout : a.outbound.IsHeld r.channel := hheld.resolve_right fun hi => hi.not_moves hm
    exact ⟨h.calls, hshow, _, rfl, .inl (hm.outbound_isHeld.2 hout), hd⟩
  | loses hp' ho hi =>
    rw [hp] at hp'
    cases hp'
    rcases hheld with hheld | hheld
    · rw [hheld.result?_eq_none] at ho; cases ho
    · rw [hheld.result?_eq_none] at hi; cases hi

/-- What an event leaves of the reasons to wait. -/
theorem isHeld_happen {a : Attempt} {e : Event} (h : a.IsHeld r.channel) (he : e.releases = false) :
    a.IsHeld (r.happen e).channel := by
  have same (hs : r.channel.SameHold (r.happen e).channel) : a.IsHeld (r.happen e).channel :=
    h.imp hs.outbound.2 hs.inbound.2
  cases e with
  | wireFull b =>
    have hb : b = true := by simpa [Event.releases] using he
    subst hb
    refine h.imp (fun ho => ⟨ho.sending, ho.full⟩) fun hi => ?_
    cases hi with
    | writing hp _ hw hf => exact .writing hp rfl hw hf
    | pinging hp hf => exact .pinging hp hf
  | transportFull b =>
    have hb : b = true := by simpa [Event.releases] using he
    subst hb
    refine h.imp (fun ho => ⟨ho.sending, rfl⟩) fun hi => ?_
    cases hi with
    | writing hp hn hw hf => exact .writing hp hn hw hf
    | pinging hp _ => exact .pinging hp rfl
  | writeError => cases he
  | stop =>
    apply same
    simp only [happen, requestStop]
    split <;> exact ⟨rfl, rfl, rfl, rfl⟩
  | serverSend d =>
    apply same
    simp only [happen]
    split <;> exact ⟨rfl, rfl, rfl, rfl⟩
  | run =>
    apply same
    simp only [happen]
    rcases r.start_snd with e | ⟨-, e⟩ <;> rw [e] <;> exact ⟨rfl, rfl, rfl, rfl⟩
  | push | strangerSend | serverClose | readError | network | observe =>
    exact same ⟨rfl, rfl, rfl, rfl⟩

theorem Held.happen (h : Held r₁ device r) {e : Event} (he : e.releases = false) :
    Held r₁ device (r.happen e) := by
  obtain ⟨a, hp, hheld, hd⟩ := h.pumps
  have hp' : (r.happen e).phase = .pumping a := by
    rcases r.happen_phase e with h | ⟨hi, -, -⟩
    · exact h.trans hp
    · rw [hp] at hi; cases hi
  exact ⟨(happen_calls r e).trans h.calls, happen_shows h.shows e, a, hp', isHeld_happen hheld he, hd⟩

/-- As long as nothing lets its operation go on, an attempt that is held stays so, whatever else
happens and however much time passes. -/
theorem Held.leads {es : List Event} (h : Held r₁ device r) (hl : r.Leads es r')
    (he : ∀ e ∈ es, e.releases = false) : Held r₁ device r' := by
  induction hl with
  | start => exact h
  | event _ e ih =>
    rw [List.forall_mem_append, List.forall_mem_singleton] at he
    exact (ih he.1).happen he.2
  | does _ hd ih => exact (ih he).change hd.change
  | @clock _ r' _ t _ _ _ ih =>
    obtain ⟨a, hp, hheld, hd⟩ := (ih he).pumps
    have hsame : r'.channel.SameHold (r'.moveClock t).channel := ⟨rfl, rfl, rfl, rfl⟩
    exact ⟨(ih he).calls, (ih he).shows, a, hp, hheld.imp hsame.outbound.2 hsame.inbound.2, hd⟩

theorem Held.result?_eq_none (h : Held r₁ device r) : r.result? = none := by
  obtain ⟨a, hp, -⟩ := h.pumps
  rw [result?, hp]

theorem Held.openDevice?_eq (h : Held r₁ device r) : r.openDevice? = some device := by
  obtain ⟨a, hp, -, hd⟩ := h.pumps
  rw [openDevice?, hp]
  exact congrArg some hd

theorem Held.state_eq (h : Held r₁ device r) : r.state = .connected := by
  obtain ⟨a, hp, -⟩ := h.pumps
  have hshow := h.shows
  rw [hp] at hshow
  exact hshow

/-- What comes whatever the order comes in the executed order. -/
theorem Eventually.exists_leads {P : Run → Prop} (h : r.Eventually P) :
    ∃ r', r.Leads [] r' ∧ P r' := by
  induction h with
  | @now r h => exact ⟨r, .start, h⟩
  | @later r hn _ ih =>
    obtain ⟨r₂, hs⟩ := Option.ne_none_iff_exists'.1 hn
    have hd := does_of_step hs
    obtain ⟨r', hl, hP⟩ := ih r₂ hd
    exact ⟨r', (Leads.start.does hd).trans hl, hP⟩

/-! ## A stop that is seen -/

/-- The connection has ended on request in the instant of `r₁`, and all that was asked of the host
since is to close `device`. -/
structure Halted (r₁ : Run) (device : String) (r : Run) : Prop where
  result : r.result? = some (.ok ())
  state : r.state = .stopped
  now : r.now = r₁.now
  calls : ∃ ok, r.calls = r₁.calls ++ [⟨r₁.now, .close device ok, .connected⟩]

/-- The attempt that opened `device` in `r₁` has been asked to stop and is not held, and nothing has
been asked of the host since. -/
structure Halting (r₁ : Run) (device : String) (r : Run) : Prop where
  stop : r.stop = true
  shows : r.phase.Shows r.state
  now : r.now = r₁.now
  calls : r.calls = r₁.calls
  pumps : ∃ a, r.phase = .pumping a ∧ ¬ a.IsHeld r.channel ∧ a.device = device

theorem Halting.step_ne_none (h : Halting r₁ device r) : r.step ≠ none := by
  obtain ⟨a, hp, hheld, -⟩ := h.pumps
  intro hn
  obtain ⟨ho, hi, hj⟩ := (step_eq_none_iff hp).1 hn
  rw [outboundStep_eq_none_iff, h.stop, Bool.true_or] at ho
  rw [inboundStep_eq_none_iff, h.stop, Bool.true_or, Bool.true_or] at hi
  have hor := (Outbound.isHeld_of_step ho).resolve_right fun h => hheld (.inl h)
  have hir := (Inbound.isHeld_of_step hi).resolve_right fun h => hheld (.inr h)
  rcases join_eq_none_iff.1 hj with hj | hj
  · exact hor hj
  · exact hir hj

theorem Halting.change (h : Halting r₁ device r) (hc : r.Change r') :
    Halted r₁ device r' ∨ Halting r₁ device r' := by
  obtain ⟨a, hp, hheld, hd⟩ := h.pumps
  have hs := h.stop
  have hshow := hc.shows h.shows
  have hnow := hc.now.trans h.now
  cases hc with
  | resolved hp' | unresolved hp' | begins hp' | fails hp' | connects hp' | wakes hp' =>
    rw [hp] at hp'; cases hp'
  | stopped hp' =>
    rw [hp] at hp'
    rcases hp' with hp' | ⟨_, _, hp'⟩ | ⟨_, _, _, hp'⟩ <;> cases hp'
  | outbound hp' hm =>
    rw [hp] at hp'
    cases hp'
    rw [hs, Bool.true_or] at hm
    refine .inr ⟨hs, hshow, hnow, h.calls, _, rfl, ?_, hd⟩
    rintro (ho | hi)
    · exact hm.not_isHeld ho
    · exact hheld (.inr (hm.sameHold.inbound.1 hi))
  | inbound hp' hm =>
    rw [hp] at hp'
    cases hp'
    rw [hs, Bool.true_or, Bool.true_or] at hm
    refine .inr ⟨hs, hshow, hnow, h.calls, _, rfl, ?_, hd⟩
    rintro (ho | hi)
    · exact hheld (.inl (hm.outbound_isHeld.1 ho))
    · exact hm.not_isHeld hi
  | @loses a' _ _ ok host log hp' =>
    rw [hp] at hp'
    cases hp'
    have hstate : r.state = .connected := by
      have hshow := h.shows
      rw [hp] at hshow
      exact hshow
    have hcalls : (r.afterClose a.device ok host log).calls =
        r₁.calls ++ [⟨r₁.now, .close device ok, .connected⟩] := by
      show r.calls ++ [⟨r.now, .close a.device ok, r.state⟩] = _
      rw [h.calls, h.now, hd, hstate]
    obtain ⟨log', e⟩ := afterAttempt_of_stop (r := r.afterClose a.device ok host log) hs a.server 0
    rw [e] at hnow ⊢
    exact .inl ⟨rfl, rfl, hnow, ok, hcalls⟩

/-- An attempt that is asked to stop and is not held is over in the same instant, and the connection
with it. -/
theorem Halting.eventually (h : Halting r₁ device r) : r.Eventually (Halted r₁ device) := by
  refine eventually_of_rank (I := fun r => Halted r₁ device r ∨ Halting r₁ device r) stepsLeft ?_ r
    (.inr h)
  rintro r (h | h)
  · exact .inl h
  · refine .inr ⟨h.step_ne_none, ?_⟩
    intro r' hd
    exact ⟨h.change hd.change, hd.change.stepsLeft_lt h.stop⟩

end

/-! ## The law of suspensions -/

/-- A connection whose pumps run is suspended only where each of them has ended, reads, pauses,
waits for the server or is in an operation that has to wait. Wherever it stands, a stop ends both
pumps, the attempt and the connection in its own instant exactly if no pump is held by such an
operation. While one is, and nothing lets it go on, the stop has no effect: the interface stays open
and the connection goes on to be connected, whatever else happens and however much time passes. -/
theorem Leads.suspension_lawful {r₀ r : Run} {es : List Event} {a : Attempt} (h₀ : r₀.IsFresh)
    (h : r₀.Leads es r) (hp : r.phase = .pumping a) :
    (r.step = none → a.outbound.Rests (r.stop || a.stop) r.channel ∧
      a.inbound.Rests (r.stop || a.stop || a.stopInbound) r.inboundConfig r.channel) ∧
    ((r.happen .stop).Eventually (Halted r a.device) ↔ ¬ a.IsHeld r.channel) ∧
    (a.IsHeld r.channel → ∀ es' r', (r.happen .stop).Leads es' r' →
      (∀ e ∈ es', e.releases = false) → r'.result? = none ∧ r'.state = .connected ∧
        r'.openDevice? = some a.device ∧ r'.calls = r.calls) := by
  have hshow := h.shows h₀
  have hheld : a.IsHeld r.channel → Held r a.device (r.happen .stop) := by
    intro hheld
    have hr : Held r a.device r := ⟨rfl, hshow, a, hp, hheld, rfl⟩
    exact hr.happen rfl
  refine ⟨?_, ?_, ?_⟩
  · intro hn
    obtain ⟨ho, hi, -⟩ := rests_of_step hp hn
    exact ⟨ho, hi⟩
  · constructor
    · intro hev hh
      obtain ⟨r', hl, hhalted⟩ := hev.exists_leads
      have hnone := ((hheld hh).leads hl (by simp)).result?_eq_none
      rw [hhalted.result] at hnone
      cases hnone
    · intro hh
      have hsame : Channel.SameHold (r.happen .stop).channel r.channel := by
        simp only [happen, requestStop]
        split <;> exact ⟨rfl, rfl, rfl, rfl⟩
      have hp' : (r.happen .stop).phase = .pumping a := by
        rcases r.happen_phase .stop with h | ⟨hi, -, -⟩
        · exact h.trans hp
        · rw [hp] at hi; cases hi
      apply Halting.eventually
      refine ⟨(r.happen_stop .stop).2 (.inr rfl), happen_shows hshow .stop, happen_now r .stop,
        happen_calls r .stop, a, hp', ?_, rfl⟩
      intro hh'
      exact hh (hh'.imp hsame.outbound.2 hsame.inbound.2)
  · intro hh es' r' hl he
    have hr' := (hheld hh).leads hl he
    exact ⟨hr'.result?_eq_none, hr'.state_eq, hr'.openDevice?_eq, hr'.calls⟩

/-- In the small run both pumps are suspended, one reading and one waiting for the server, and a stop
ends them. -/
theorem trialConnected_suspension : trialConnected.step = none ∧
    ∃ a, trialConnected.phase = .pumping a ∧
      (trialConnected.happen .stop).Eventually (Halted trialConnected a.device) := by
  have hn : trialConnected.step = none := rfl
  obtain ⟨-, hiff, -⟩ := trial_leads_connected.suspension_lawful trial_isFresh rfl
  refine ⟨hn, _, rfl, hiff.2 ?_⟩
  rintro (⟨⟨p, hp⟩, -⟩ | hi)
  · cases hp
  · cases hi with
    | writing hp | pinging hp => cases hp

/-- The small run when the interface takes no more packets and one has come in. -/
def trialWriting : Run :=
  ([.wireFull true, .serverSend [69, 1]].foldl happen trialConnected).settleWithin 2

/-- The small run when the socket takes no more datagrams and one is to go out. -/
def trialSendingOn : Run :=
  ([.transportFull true, .push [69, 1]].foldl happen trialConnected).settleWithin 2

/-- A pump that is suspended in a write to the interface, or in a send, does not see a stop: the
interface stays open and the connection goes on to be connected until the operation can go on. -/
theorem trialWriting_not_stopped :
    (trial.Leads [.run, .wireFull true, .serverSend [69, 1]] trialWriting ∧
      trialWriting.step = none ∧ ∀ es r, (trialWriting.happen .stop).Leads es r →
        (∀ e ∈ es, e.releases = false) →
        r.result? = none ∧ r.state = .connected ∧ r.openDevice? = some "sim0") ∧
    (trial.Leads [.run, .transportFull true, .push [69, 1]] trialSendingOn ∧
      trialSendingOn.step = none ∧ ∀ es r, (trialSendingOn.happen .stop).Leads es r →
        (∀ e ∈ es, e.releases = false) →
        r.result? = none ∧ r.state = .connected ∧ r.openDevice? = some "sim0") := by
  have never {r₁ : Run} (h : Held r₁ "sim0" r₁) (es : List Event) (r : Run)
      (hl : (r₁.happen .stop).Leads es r) (he : ∀ e ∈ es, e.releases = false) :
      r.result? = none ∧ r.state = .connected ∧ r.openDevice? = some "sim0" := by
    have hr : Held r₁ "sim0" r := (h.happen rfl).leads hl he
    exact ⟨hr.result?_eq_none, hr.state_eq, hr.openDevice?_eq⟩
  constructor
  · refine ⟨?_, rfl, never ⟨rfl, rfl, _, rfl, .inr (.writing rfl rfl rfl rfl), rfl⟩⟩
    exact ((trial_leads_connected.event (.wireFull true)).event (.serverSend [69, 1])).settleWithin 2
  · refine ⟨?_, rfl, never ⟨rfl, rfl, _, rfl, .inl ⟨⟨_, rfl⟩, rfl⟩, rfl⟩⟩
    exact ((trial_leads_connected.event (.transportFull true)).event (.push [69, 1])).settleWithin 2

end Run

end TunnelRelay.Relay
