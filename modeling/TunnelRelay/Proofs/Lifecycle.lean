import TunnelRelay.Proofs.Closing
/-!
# The life of interfaces

Every interface that is established is announced while it is open, closed once and closed before
the host is asked for anything else. `HostCall.openAfter?` says this call by call; `Block` says it
attempt by attempt, and the ledger of a run joins both.
-/

namespace TunnelRelay.Relay

open Net

/-! ## Which call may follow -/

/-- Whether an interface is open after a call. While one is open it can only be announced and
closed, and while none is there is nothing to announce or to close. -/
def HostCall.openAfter? : Bool → HostCall → Option Bool
  | false, .establish _ true => some true
  | false, .listener _ _ | false, .close _ _ => none
  | false, _ => some false
  | true, .listener _ _ => some true
  | true, .close _ _ => some false
  | true, _ => none

/-- The interface that a call closes. -/
def HostCall.closed? : HostCall → Option String
  | .close device _ => some device
  | _ => none

theorem foldlM_grants (fds : List Int) :
    (Course.grants fds).foldlM HostCall.openAfter? false = some false := by
  induction fds with
  | nil => rfl
  | cons fd fds ih => exact ih

/-- Nothing is closed before the pumps of an attempt have run. -/
theorem closed_opening (l d : Bool) (c : Course) :
    (c.opening l d).filterMap HostCall.closed? = [] := by
  have grants (fds : List Int) {cs : List HostCall} (h : cs.filterMap HostCall.closed? = []) :
      (Course.grants fds ++ cs).filterMap HostCall.closed? = [] := by
    induction fds with
    | nil => exact h
    | cons fd fds ih => exact ih
  cases c with
  | transportRefused => rfl
  | auxiliaryRefused fds fd => exact grants fds rfl
  | unconnected fds => exact grants fds rfl
  | notEstablished fds own settings =>
    simp only [Course.opening, Course.allGranted, List.cons_append, List.append_assoc]
    exact grants fds rfl
  | established fds own settings device closing =>
    simp only [Course.opening, Course.allGranted, List.cons_append, List.append_assoc]
    exact grants fds (by cases l <;> rfl)

namespace Block

theorem map_call_records (l d : Bool) (b : Block) : (b.records l d).map CallRecord.call =
    b.course.opening l d ++ b.course.closing.map CallRecord.call := by
  simp [records, Function.comp_def]

/-- The calls of an attempt are in their places, and an interface is open afterwards if it has not
been closed. -/
theorem foldlM_records (l d : Bool) (b : Block) :
    ((b.records l d).map CallRecord.call).foldlM HostCall.openAfter? false =
      some b.course.openDevice?.isSome := by
  rw [map_call_records]
  cases b.course with
  | transportRefused => rfl
  | auxiliaryRefused fds fd =>
    simp [Course.opening, Course.closing, foldlM_grants, HostCall.openAfter?, Course.openDevice?]
  | unconnected fds =>
    simp [Course.opening, Course.closing, Course.allGranted, foldlM_grants, HostCall.openAfter?,
      Course.openDevice?]
  | notEstablished fds own settings =>
    simp [Course.opening, Course.closing, Course.allGranted, Course.asked, foldlM_grants,
      HostCall.openAfter?, Course.openDevice?]
  | established fds own settings device closing =>
    cases l <;> rcases closing with _ | ⟨time, ok⟩ <;>
      simp [Course.opening, Course.closing, Course.allGranted, Course.asked, foldlM_grants,
        HostCall.openAfter?, Course.openDevice?]

/-- An attempt closes the interface that it leaves no longer open. -/
theorem closed_records (l d : Bool) (b : Block) :
    ((b.records l d).map CallRecord.call).filterMap HostCall.closed? ++
      b.course.openDevice?.toList = b.course.device?.toList := by
  rw [map_call_records, List.filterMap_append, closed_opening]
  cases b.course with
  | established fds own settings device closing => rcases closing with _ | ⟨time, ok⟩ <;> rfl
  | _ => rfl

end Block

/-- The calls of attempts that are over leave nothing open. -/
theorem foldlM_blocks (l d : Bool) {bs : List Block} (h : ∀ b ∈ bs, b.IsOver) :
    ((bs.flatMap (Block.records l d)).map CallRecord.call).foldlM HostCall.openAfter? false =
      some false := by
  induction bs with
  | nil => rfl
  | cons b bs ih =>
    rw [List.flatMap_cons, List.map_append, List.foldlM_append, b.foldlM_records,
      show b.course.openDevice? = none from h b List.mem_cons_self]
    exact ih fun b' hb' => h b' (List.mem_cons_of_mem b hb')

/-- What attempts have closed and what they have left open is what they have established. -/
theorem closed_blocks (l d : Bool) {bs : List Block} (h : ∀ b ∈ bs, b.IsOver) :
    ((bs.flatMap (Block.records l d)).map CallRecord.call).filterMap HostCall.closed? =
      bs.filterMap (·.course.device?) := by
  induction bs with
  | nil => rfl
  | cons b bs ih =>
    have hb := b.closed_records l d
    rw [show b.course.openDevice? = none from h b List.mem_cons_self, Option.toList_none,
      List.append_nil] at hb
    rw [List.flatMap_cons, List.map_append, List.filterMap_append, hb,
      ih fun b' hb' => h b' (List.mem_cons_of_mem b hb'), List.filterMap_cons]
    cases b.course.device? <;> rfl

/-- Interfaces have names of their own. -/
theorem deviceName_injective {i j : Nat} (h : deviceName i = deviceName j) : i = j := by
  have h : Nat.repr i = Nat.repr j := (String.append_right_inj "sim").1 h
  have hd : Nat.toDigits 10 i = Nat.toDigits 10 j := String.ofList_injective h
  rw [← Nat.ofDigitChars_ten_toDigits (n := i), hd, Nat.ofDigitChars_ten_toDigits]

namespace Run

/-- The interface that is open. -/
def openDevice? (r : Run) : Option String :=
  match r.phase with
  | .pumping a => some a.device
  | _ => none

/-- Either no attempt has an interface open, or the last one has. -/
theorem Ledger.open_cases {sockets : List Int} {r : Run} {bs : List Block} (h : Ledger sockets r bs) :
    (r.openDevice? = none ∧ ∀ b ∈ bs, b.IsOver) ∨
      ∃ bs' b, bs = bs' ++ [b] ∧ (∀ b ∈ bs', b.IsOver) ∧ r.openDevice? ≠ none ∧
        b.course.openDevice? = r.openDevice? := by
  have hs := h.stands
  unfold Stands at hs
  unfold openDevice?
  cases hp : r.phase with
  | pumping a =>
    rw [hp] at hs
    obtain ⟨bs', b, e, ho, hd⟩ := hs
    exact .inr ⟨bs', b, e, ho, Option.some_ne_none _, hd⟩
  | idle | starting => rw [hp] at hs; exact .inl ⟨rfl, by rw [show bs = [] from hs]; simp⟩
  | opening | attempting | pausing => rw [hp] at hs; exact .inl ⟨rfl, hs.2.1⟩
  | done => rw [hp] at hs; exact .inl ⟨rfl, hs.1⟩

/-- Nothing is open but the interface of the attempt whose pumps run, every call is in its place,
and all interfaces but the open one have been closed, once each. -/
theorem Ledger.opens {sockets : List Int} {r : Run} {bs : List Block} (h : Ledger sockets r bs) :
    (∀ b ∈ bs.dropLast, b.IsOver) ∧
    bs.filterMap (·.course.openDevice?) = r.openDevice?.toList ∧
    (r.calls.map CallRecord.call).foldlM HostCall.openAfter? false =
      some r.openDevice?.isSome ∧
    (r.calls.map CallRecord.call).filterMap HostCall.closed? ++ r.openDevice?.toList =
      (List.range r.established).map deviceName := by
  have closed {bs : List Block} (ho : ∀ b ∈ bs, b.IsOver) :
      bs.filterMap (·.course.openDevice?) = [] := List.filterMap_eq_nil_iff.2 ho
  rw [h.calls, ← h.devices]
  rcases h.open_cases with ⟨hn, ho⟩ | ⟨bs', b, rfl, ho, -, hd⟩
  · rw [hn]
    refine ⟨fun b hb => ho b (List.dropLast_subset bs hb), closed ho, foldlM_blocks _ _ ho, ?_⟩
    rw [closed_blocks _ _ ho]
    exact List.append_nil _
  · rw [List.dropLast_concat, List.filterMap_append, List.filterMap_append, closed ho, ← hd]
    refine ⟨ho, ?_, ?_, ?_⟩
    · rw [List.filterMap_cons]
      cases b.course.openDevice? <;> rfl
    · rw [List.flatMap_append, List.map_append, List.foldlM_append, foldlM_blocks _ _ ho]
      simp only [List.flatMap_cons, List.flatMap_nil, List.append_nil]
      exact b.foldlM_records _ _
    · rw [List.flatMap_append, List.map_append, List.filterMap_append, closed_blocks _ _ ho,
        List.append_assoc]
      simp only [List.flatMap_cons, List.flatMap_nil, List.append_nil]
      rw [b.closed_records, List.filterMap_cons]
      cases b.course.device? <;> rfl

/-- A connection that has ended has nothing open. -/
theorem openDevice?_of_result? {r : Run} (h : r.result? ≠ none) : r.openDevice? = none := by
  obtain ⟨result, hr⟩ := Option.ne_none_iff_exists'.1 h
  unfold openDevice?
  rw [result?_eq_some_iff.1 hr]

/-! ## The law of host calls -/

/-- However a run goes, what it asks of its host is one block of calls after another. The
interfaces have names of their own; all but the one that is open have been closed, once each and
before anything else was asked for, and none is open once the connection has ended. A failure to
close one leaves a warning behind and nothing else. -/
theorem Leads.host_calls_lawful {r₀ r : Run} {es : List Event} (h₀ : r₀.IsFresh)
    (h : r₀.Leads es r) :
    (∃ bs : List Block,
      r.calls = bs.flatMap (Block.records r₀.hasListener r₀.hasDescriptor) ∧
      bs.flatMap (·.course.popped) ++ r.host.sockets = r₀.host.sockets ∧
      bs.filterMap (·.course.device?) = (List.range r.established).map deviceName ∧
      bs.filterMap (·.course.openDevice?) = r.openDevice?.toList ∧
      (∀ b ∈ bs.dropLast, b.IsOver) ∧
      (r.result? ≠ none → ∀ b ∈ bs, b.IsOver)) ∧
    ((List.range r.established).map deviceName).Nodup ∧
    (r.calls.map CallRecord.call).filterMap HostCall.closed? ++ r.openDevice?.toList =
      (List.range r.established).map deviceName ∧
    (r.calls.map CallRecord.call).foldlM HostCall.openAfter? false =
      some r.openDevice?.isSome ∧
    (r.result? ≠ none → r.openDevice? = none) ∧
    (∃ s, (r₀.mended r₀.log).Leads es s ∧ r.Alike s) := by
  obtain ⟨bs, hb⟩ := h.ledger h₀
  obtain ⟨hover, hopen, hplace, hclosed⟩ := hb.opens
  have hcalls : r.calls = bs.flatMap (Block.records r₀.hasListener r₀.hasDescriptor) := by
    rw [hb.calls, h.sameTerms.hasListener, h.sameTerms.hasDescriptor]
  have hend : r.result? ≠ none → ∀ b ∈ bs, b.IsOver := by
    intro hr
    rcases hb.open_cases with ⟨-, ho⟩ | ⟨-, -, -, -, hne, -⟩
    · exact ho
    · exact absurd (openDevice?_of_result? hr) hne
  have hnodup : ((List.range r.established).map deviceName).Nodup := by
    refine List.Pairwise.map deviceName ?_ List.nodup_range
    intro i j hne e
    exact hne (deviceName_injective e)
  exact ⟨⟨bs, hcalls, hb.sockets, hb.devices, hopen, hover, hend⟩, hnodup, hclosed, hplace,
    openDevice?_of_result?, h.mended h₀⟩

/-- In the small run the second of two attempts is refused, and the interface of the first is
closed with a warning. -/
theorem trialDone_host_calls :
    (trialDone.calls.map CallRecord.call).filterMap HostCall.closed? = ["sim0"] ∧
    (trialDone.calls.map CallRecord.call).foldlM HostCall.openAfter? false = some false ∧
    ∃ s, (trial.mended trial.log).Leads (.run :: trialEvents) s ∧ trialDone.Alike s := by
  obtain ⟨-, -, hclosed, hplace, hend, hmend⟩ := trial_leads_done.host_calls_lawful trial_isFresh
  have hn : trialDone.openDevice? = none := hend (by decide)
  rw [hn] at hclosed hplace
  exact ⟨((List.append_nil _).symm.trans hclosed).trans rfl, hplace, hmend⟩

end Run

end TunnelRelay.Relay
