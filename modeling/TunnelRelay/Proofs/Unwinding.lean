import TunnelRelay.Proofs.Changes
/-!
# How an attempt unwinds

The pumps of an attempt stop one another by two signals. `Attempt.Linked` is the invariant of
these signals: the attempt's stop is requested exactly if the inbound pump has failed, the inbound
pump's exactly if the outbound pump has ended, and no pump ends without a failure unless it was
asked to. Once a stop has reached both pumps only few steps are left (`Attempt.stepsLeft`), and
none of them can be put off unless an operation has to wait, so the attempt is over in the same
instant whatever the order of the steps. `Run.Eventually` says such a thing.
-/

namespace TunnelRelay.Relay

/-! ## Steps that are left -/

/-- A bound on the steps of an outbound pump that is asked to stop. -/
def Outbound.stepsLeft (o : Outbound) : Nat :=
  match o.phase with
  | .ended _ => 0
  | .ready | .idling _ => 1
  | .sending _ => 2

/-- A bound on the steps of an inbound pump that is asked to stop. -/
def Inbound.stepsLeft (i : Inbound) : Nat :=
  match i.phase with
  | .ended _ | .panicked => 0
  | .waiting => 1
  | .writing _ | .pinging => 2

/-- A bound on the steps of both pumps. -/
def Attempt.stepsLeft (a : Attempt) : Nat := a.outbound.stepsLeft + a.inbound.stepsLeft

/-- A bound on the steps to the end of a connection that was asked to stop, or of an attempt that
was. An attempt without an interface does not look at the stop, so it may still get one. -/
def Run.stepsLeft (r : Run) : Nat :=
  match r.phase with
  | .idle | .done _ => 0
  | .starting | .opening _ _ | .pausing _ _ _ => 1
  | .pumping a => a.stepsLeft + 2
  | .attempting _ _ => 5

/-- A pump that is asked to stop comes closer to its end with each step. -/
theorem Outbound.Moves.stepsLeft_lt {idle : Nat} {o o' : Outbound} {c c' : Channel}
    (h : o.Moves true idle c o' c') : o'.stepsLeft < o.stepsLeft := by
  unfold Outbound.stepsLeft
  cases h with
  | stopped _ hp => rcases hp with hp | ⟨w, hp⟩ <;> rw [hp] <;> exact Nat.zero_lt_one
  | refused hp => rw [hp]; exact Nat.zero_lt_two
  | sent hp => rw [hp]; exact Nat.one_lt_two
  | readFailed hs | foundEmpty hs | tookEmpty hs | took hs | woke hs => cases hs

theorem Inbound.Moves.stepsLeft_lt {config : InboundConfig} {i i' : Inbound} {c c' : Channel}
    (h : i.Moves true config c i' c') : i'.stepsLeft < i.stepsLeft := by
  unfold Inbound.stepsLeft
  cases h with
  | stopped hp => rw [hp]; exact Nat.zero_lt_one
  | panicked hp | writeFailed hp | pingRefused hp => rw [hp]; exact Nat.zero_lt_two
  | written hp | pinged hp => rw [hp]; exact Nat.one_lt_two
  | silent _ hs | refused _ hs | received _ hs | due _ hs => cases hs

/-! ## Operations that wait -/

/-- No write to the interface and no send has to wait. -/
structure Channel.IsFree (c : Channel) : Prop where
  wire : c.wire.isFull = false
  transport : c.transport.isFull = false

/-- Whether an event makes writes or sends wait. -/
def Event.blocks : Event → Bool
  | .wireFull b | .transportFull b => b
  | _ => false

/-- A pump that is asked to stop rests only at its end or in a send that waits. -/
theorem Outbound.Rests.of_stop {o : Outbound} {c : Channel} (h : o.Rests true c) :
    o.result? ≠ none ∨ ∃ p, o.phase = .sending p ∧ c.transport.isFull = true := by
  unfold Outbound.result?
  cases h with
  | ended hp => rw [hp]; exact .inl (Option.some_ne_none _)
  | sending hp hf => exact .inr ⟨_, hp, hf⟩
  | reading _ hs | idling _ hs => cases hs

/-- A pump that is asked to stop rests only at its end, in a write that waits or in a send that
waits. -/
theorem Inbound.Rests.of_stop {config : InboundConfig} {i : Inbound} {c : Channel}
    (h : i.Rests true config c) : i.result? ≠ none ∨
      (∃ p, i.phase = .writing p ∧ c.wire.isFull = true) ∨
      (i.phase = .pinging ∧ c.transport.isFull = true) := by
  unfold Inbound.result?
  cases h with
  | ended hp | panicked hp => rw [hp]; exact .inl (Option.some_ne_none _)
  | writing hp hn => exact .inr (.inl ⟨_, hp, hn⟩)
  | pinging hp hf => exact .inr (.inr ⟨hp, hf⟩)
  | waiting _ hs => cases hs

/-- No step of a pump lets an operation wait or go on, or changes what a write does to the task. -/
theorem Outbound.Moves.flags {stop : Bool} {idle : Nat} {o o' : Outbound} {c c' : Channel}
    (h : o.Moves stop idle c o' c') : c'.wire.isFull = c.wire.isFull ∧
      c'.transport.isFull = c.transport.isFull ∧ c'.wire.writesPanic = c.wire.writesPanic := by
  cases h <;> exact ⟨rfl, rfl, rfl⟩

theorem Inbound.Moves.flags {stop : Bool} {config : InboundConfig} {i i' : Inbound} {c c' : Channel}
    (h : i.Moves stop config c i' c') : c'.wire.isFull = c.wire.isFull ∧
      c'.transport.isFull = c.transport.isFull ∧ c'.wire.writesPanic = c.wire.writesPanic := by
  cases h <;> exact ⟨rfl, rfl, rfl⟩

/-! ## The signals of an attempt -/

/-- How the signals of an attempt go with its pumps. `stop` is the stop of the connection. -/
structure Attempt.Linked (stop : Bool) (a : Attempt) : Prop where
  stop_eq : a.stop = a.inbound.hasFailed
  stopInbound_eq : a.stopInbound = a.outbound.result?.isSome
  outbound_ok : ∀ s, a.outbound.phase = .ended (.ok s) → stop = true ∨ a.stop = true
  inbound_ok : ∀ s, a.inbound.phase = .ended (.ok s) → stop = true ∨ a.stopInbound = true

/-- A pump that can move has not ended. -/
theorem Outbound.Moves.result?_eq_none {stop : Bool} {idle : Nat} {o o' : Outbound} {c c' : Channel}
    (h : o.Moves stop idle c o' c') : o.result? = none := by
  unfold Outbound.result?
  cases h with
  | stopped _ hp => rcases hp with hp | ⟨w, hp⟩ <;> rw [hp]
  | readFailed _ hp | foundEmpty _ hp | tookEmpty _ hp | took _ hp | woke _ hp => rw [hp]
  | refused hp | sent hp => rw [hp]

theorem Inbound.Moves.hasFailed_eq_false {stop : Bool} {config : InboundConfig} {i i' : Inbound}
    {c c' : Channel} (h : i.Moves stop config c i' c') : i.hasFailed = false := by
  unfold Inbound.hasFailed
  cases h with
  | _ hp => rw [hp]

/-- A pump ends without a failure only if it was asked to stop. -/
theorem Outbound.Moves.stop_of_ok {stop : Bool} {idle : Nat} {o o' : Outbound} {c c' : Channel}
    (h : o.Moves stop idle c o' c') {s : PumpStats} (he : o'.phase = .ended (.ok s)) :
    stop = true := by
  cases h with
  | stopped hs => exact hs
  | readFailed | refused => cases he
  | foundEmpty | tookEmpty | took | woke | sent => cases he

theorem Inbound.Moves.stop_of_ok {stop : Bool} {config : InboundConfig} {i i' : Inbound}
    {c c' : Channel} (h : i.Moves stop config c i' c') {s : PumpStats}
    (he : i'.phase = .ended (.ok s)) : stop = true := by
  cases h with
  | stopped _ hs => exact hs
  | silent | refused | writeFailed | pingRefused => cases he
  | due | panicked | written | pinged => cases he
  | received =>
    unfold Inbound.accept at he
    dsimp only at he
    split at he <;> cases he

namespace Run

section
variable {r r' : Run}

/-- In an attempt whose pumps run, the signals go with the pumps. -/
def Linked (r : Run) : Prop := ∀ a, r.phase = .pumping a → a.Linked r.stop

theorem Linked.change (h : r.Linked) (hc : r.Change r') : r'.Linked := by
  have hst := hc.stop
  cases hc with
  | resolved | unresolved | stopped | begins | wakes => exact fun a hp => nomatch hp
  | fails | loses => exact fun a hp => absurd hp (afterAttempt_ne_pumping _ _ _ _)
  | connects =>
    intro a hp
    cases hp
    exact ⟨rfl, rfl, nofun, nofun⟩
  | @outbound a o c hp hm =>
    obtain ⟨hs, hi, -, hin⟩ := h a hp
    intro a' hp'
    cases hp'
    refine ⟨hs, ?_, ?_, ?_⟩
    · rw [show a.stopInbound = false from by rw [hi, hm.result?_eq_none]; rfl, Bool.false_or]
    · intro s he
      exact (Bool.or_eq_true_iff.1 (hm.stop_of_ok he))
    · intro s he
      rcases hin s he with h | h
      · exact .inl h
      · exact .inr (by rw [h, Bool.true_or])
  | @inbound a i c hp hm =>
    obtain ⟨hs, hi, hout, -⟩ := h a hp
    have hs₀ : a.stop = false := hs.trans hm.hasFailed_eq_false
    intro a' hp'
    cases hp'
    refine ⟨?_, hi, ?_, ?_⟩
    · rw [hs₀, Bool.false_or]
    · intro s he
      rcases hout s he with h | h
      · exact .inl h
      · exact .inr (by rw [h, Bool.true_or])
    · intro s he
      have hor := hm.stop_of_ok he
      rw [hs₀, Bool.or_false] at hor
      exact Bool.or_eq_true_iff.1 hor

theorem Linked.happen (h : r.Linked) (e : Event) : (r.happen e).Linked := by
  intro a hp
  have hp₀ := phase_of_happen hp
  obtain ⟨hs, hi, hout, hin⟩ := h a hp₀
  have mono : r.stop = true → (r.happen e).stop = true := fun hs => (r.happen_stop e).2 (.inl hs)
  exact ⟨hs, hi, fun s he => (hout s he).imp_left mono, fun s he => (hin s he).imp_left mono⟩

/-- The signals go with the pumps at every moment of a run. -/
theorem Leads.linked {r₀ : Run} {es : List Event} (h₀ : r₀.IsFresh) (h : r₀.Leads es r) :
    r.Linked := by
  induction h with
  | start => intro a hp; rw [h₀.phase] at hp; cases hp
  | event _ e ih => exact ih.happen e
  | does _ hd ih => exact ih.change hd.change
  | clock _ _ _ _ ih => exact ih

/-- After an attempt the supervisor has at most a pause to end. -/
theorem afterAttempt_stepsLeft (r : Run) (server : Net.Address) (f : Nat) :
    (r.afterAttempt server f).stepsLeft ≤ 1 := by
  rcases r.afterAttempt_phase server f with ⟨_, h⟩ | h <;> simp [stepsLeft, h]

/-! ## Operations that wait, in a run -/

theorem Change.flags (hc : r.Change r') :
    r'.channel.wire.isFull = r.channel.wire.isFull ∧
      r'.channel.transport.isFull = r.channel.transport.isFull ∧
      r'.channel.wire.writesPanic = r.channel.wire.writesPanic := by
  cases hc with
  | resolved | unresolved | stopped | begins | connects | wakes => exact ⟨rfl, rfl, rfl⟩
  | fails => rw [afterAttempt_channel]; exact ⟨rfl, rfl, rfl⟩
  | outbound _ hm => exact hm.flags
  | inbound _ hm => exact hm.flags
  | loses => rw [afterAttempt_channel, afterClose]; dsimp only; split <;> exact ⟨rfl, rfl, rfl⟩

theorem isFree_of_change (h : r.channel.IsFree) (hc : r.Change r') : r'.channel.IsFree :=
  ⟨hc.flags.1.trans h.wire, hc.flags.2.1.trans h.transport⟩

theorem isFree_happen (h : r.channel.IsFree) {e : Event} (he : e.blocks = false) :
    (r.happen e).channel.IsFree := by
  cases e with
  | wireFull b => cases he; exact ⟨rfl, h.transport⟩
  | transportFull b => cases he; exact ⟨h.wire, rfl⟩
  | stop =>
    simp only [Run.happen, requestStop]
    split <;> exact ⟨h.wire, h.transport⟩
  | serverSend d =>
    simp only [Run.happen]
    split <;> exact ⟨h.wire, h.transport⟩
  | run =>
    simp only [Run.happen]
    rcases r.start_snd with e | ⟨-, e⟩ <;> rw [e] <;> exact ⟨h.wire, h.transport⟩
  | _ => exact ⟨h.wire, h.transport⟩

/-- What no event makes wait stays free. -/
theorem Leads.isFree {es : List Event} (h : r.Leads es r') (hf : r.channel.IsFree)
    (hb : ∀ e ∈ es, e.blocks = false) : r'.channel.IsFree := by
  induction h with
  | start => exact hf
  | event _ e ih =>
    rw [List.forall_mem_append, List.forall_mem_singleton] at hb
    exact isFree_happen (ih hb.1) hb.2
  | does _ hd ih => exact isFree_of_change (ih hb) hd.change
  | clock _ _ _ _ ih => exact ⟨(ih hb).wire, (ih hb).transport⟩

/-! ## What comes whatever the order -/

/-- Whatever the connection does next, without the clock moving it comes to a run with the property
`P`, and until then it never has nothing to do. -/
inductive Eventually (P : Run → Prop) : Run → Prop
  | now {r : Run} (h : P r) : Eventually P r
  | later {r : Run} (hn : r.step ≠ none) (h : ∀ r', r.Does r' → Eventually P r') : Eventually P r

/-- What each step keeps and brings closer to its end is there eventually. -/
theorem eventually_of_rank {P I : Run → Prop} (rank : Run → Nat)
    (h : ∀ r, I r → P r ∨ r.step ≠ none ∧ ∀ r', r.Does r' → I r' ∧ rank r' < rank r) :
    ∀ r, I r → r.Eventually P := by
  intro r
  induction hk : rank r using Nat.strongRecOn generalizing r with
  | ind k ih =>
    intro hI
    rcases h r hI with hP | ⟨hn, hstep⟩
    · exact .now hP
    · refine .later hn fun r' hd => ?_
      obtain ⟨hI', hlt⟩ := hstep r' hd
      exact ih (rank r') (hk ▸ hlt) r' rfl hI'

end

end Run

end TunnelRelay.Relay
