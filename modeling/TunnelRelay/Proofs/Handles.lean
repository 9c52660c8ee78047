import TunnelRelay.Proofs.Signals
/-!
# Which handles a request reaches

Handles of signals are followed by the operations that made them: `Reaches` goes from a handle to
its clones, to what it is a clone of and to what is made under it, and never up to what it was made
under. A session keeps the handles in step with the forest of signals (`Tracks`), where `Reaches` is
`SignalForest.Above` (`Tracks.above_iff`), and by the contract of the forest its signals know the
requests that were made above them (`Remembers`). So a handle is requested exactly if a request was
made on one that reaches it, whichever of the two came first, and a waiter is woken exactly if the
handle that it waits on is requested (`signals_lawful`).
-/

namespace TunnelRelay

open SignalForest (tokenContract)

namespace SignalOp

/-- The handle that an operation is done with. -/
def handle : SignalOp → Nat
  | .child h | .clone h | .request h | .wait h => h

/-- Whether an operation makes a handle. -/
def makesHandle : SignalOp → Bool
  | .child _ | .clone _ => true
  | .request _ | .wait _ => false

/-- The handle that an operation starts to wait on. -/
def waited? : SignalOp → Option Nat
  | .wait h => some h
  | _ => none

end SignalOp

namespace SignalSession

/-! ## Handles and their makers -/

/-- The number of handles after some operations. The first handle is there before them. -/
def handleCount (ops : List SignalOp) : Nat := (ops.filter SignalOp.makesHandle).length + 1

/-- The operation that made a handle. -/
def maker? (ops : List SignalOp) : Nat → Option SignalOp
  | 0 => none
  | i + 1 => (ops.filter SignalOp.makesHandle)[i]?

/-- The handles on which waiters wait, in the order in which they started. -/
def waits (ops : List SignalOp) : List Nat := ops.filterMap SignalOp.waited?

/-- A request on the handle `a` reaches the handle. -/
inductive Reaches (ops : List SignalOp) (a : Nat) : Nat → Prop
  | self : Reaches ops a a
  | clone {b c : Nat} (h : Reaches ops a b) (hc : maker? ops c = some (.clone b)) : Reaches ops a c
  | original {b c : Nat} (h : Reaches ops a c) (hc : maker? ops c = some (.clone b)) :
    Reaches ops a b
  | child {b c : Nat} (h : Reaches ops a b) (hc : maker? ops c = some (.child b)) : Reaches ops a c

/-- A request was made on a handle that reaches this one. -/
def IsAsked (ops : List SignalOp) (b : Nat) : Prop := ∃ a, .request a ∈ ops ∧ Reaches ops a b

/-- The session that operations lead to, each done with a handle that is there. -/
inductive Leads : List SignalOp → SignalSession → Prop
  | new : Leads [] new
  | apply {ops : List SignalOp} {s : SignalSession} {op : SignalOp} (h : Leads ops s)
    (hop : op.handle < s.handles.length) : Leads (ops ++ [op]) (s.apply op)

section
variable {ops ops' : List SignalOp} {op : SignalOp} {a b c : Nat}

theorem handleCount_concat (hop : op.makesHandle = true) :
    handleCount (ops ++ [op]) = handleCount ops + 1 := by
  simp [handleCount, hop]

theorem handleCount_concat_of_not (hop : op.makesHandle = false) :
    handleCount (ops ++ [op]) = handleCount ops := by
  simp [handleCount, hop]

theorem maker?_concat (hop : op.makesHandle = true) (c : Nat) :
    maker? (ops ++ [op]) c = if c = handleCount ops then some op else maker? ops c := by
  cases c with
  | zero => rfl
  | succ i =>
    have hone : [op].filter SignalOp.makesHandle = [op] := by simp [hop]
    rw [maker?, maker?, List.filter_append, hone, handleCount, List.getElem?_append]
    rcases Nat.lt_trichotomy i (ops.filter SignalOp.makesHandle).length with hi | hi | hi
    · rw [if_pos hi, if_neg (by omega)]
    · simp [hi]
    · rw [if_neg (by omega), if_neg (by omega), List.getElem?_eq_none (Nat.le_of_lt hi),
        List.getElem?_eq_none (by simp; omega)]

theorem maker?_concat_of_not (hop : op.makesHandle = false) :
    maker? (ops ++ [op]) = maker? ops := by
  funext c
  cases c with
  | zero => rfl
  | succ i => simp [maker?, hop]

theorem maker?_lt (h : maker? ops c = some op) : c < handleCount ops := by
  cases c with
  | zero => cases h
  | succ i => exact Nat.succ_lt_succ (List.getElem?_eq_some_iff.1 h).1

theorem mem_of_maker? (h : maker? ops c = some op) : op ∈ ops := by
  cases c with
  | zero => cases h
  | succ i => exact (List.mem_filter.1 (List.mem_of_getElem? h)).1

/-- A handle keeps its maker. -/
theorem maker?_append {more : List SignalOp} (h : maker? ops c = some op) :
    maker? (ops ++ more) c = some op := by
  cases c with
  | zero => cases h
  | succ i =>
    have hi := (List.getElem?_eq_some_iff.1 h).1
    rw [maker?, List.filter_append, List.getElem?_append_left hi]
    exact h

theorem Reaches.mono (h : Reaches ops a b)
    (hmaker : ∀ c op, maker? ops c = some op → maker? ops' c = some op) : Reaches ops' a b := by
  induction h with
  | self => exact .self
  | clone _ hc ih => exact ih.clone (hmaker _ _ hc)
  | original _ hc ih => exact ih.original (hmaker _ _ hc)
  | child _ hc ih => exact ih.child (hmaker _ _ hc)

theorem Reaches.append {more : List SignalOp} (h : Reaches ops a b) : Reaches (ops ++ more) a b :=
  h.mono fun _ _ => maker?_append

theorem Reaches.trans (h : Reaches ops a b) (h' : Reaches ops b c) : Reaches ops a c := by
  induction h' with
  | self => exact h
  | clone _ hc ih => exact ih.clone hc
  | original _ hc ih => exact ih.original hc
  | child _ hc ih => exact ih.child hc

theorem waits_concat : waits (ops ++ [op]) = waits ops ++ op.waited?.toList := by
  cases op <;> simp [waits, SignalOp.waited?]

end

/-! ## Handles and the forest -/

/-- The handle stands for a signal that fits its maker: a clone for the same one, and a child for one
under it. -/
def Stands (s : SignalSession) (c : Nat) : SignalOp → Prop
  | .clone b => s.signal c = s.signal b
  | .child b => s.forest.IsUnder (s.signal c) (s.signal b)
  | .request _ | .wait _ => True

/-- The handles of a session are in step with its signals. -/
structure Tracks (ops : List SignalOp) (s : SignalSession) : Prop where
  ordered : s.forest.IsOrdered
  count : s.handles.length = handleCount ops
  named : ∀ op ∈ ops, op.handle < s.handles.length
  inForest : ∀ h < s.handles.length, s.signal h < s.forest.signals.length
  stands : ∀ c op, maker? ops c = some op → s.Stands c op
  /-- Each signal that is under another one was made as a child. -/
  made : ∀ i p, s.forest.IsUnder i p →
    ∃ b c, maker? ops c = some (.child b) ∧ s.signal c = i ∧ s.signal b = p
  /-- No two children are handles of one signal. -/
  apart : ∀ p q b c, maker? ops b = some (.child p) → maker? ops c = some (.child q) →
    s.signal b = s.signal c → b = c
  /-- The handles of one signal are clones of one another. -/
  shared : ∀ a b, a < s.handles.length → b < s.handles.length → s.signal a = s.signal b →
    Reaches ops a b

/-- One that waits on a handle and has looked at its signal. -/
def waiterOn (s : SignalSession) (h : Nat) : Waiter :=
  ⟨s.signal h, s.forest.isRequested (s.signal h)⟩

/-- The signals of a session know the requests that were made, and its waiters know the signals. -/
structure Remembers (ops : List SignalOp) (s : SignalSession) : Prop where
  requests : ∀ i < s.forest.signals.length, (s.forest.isRequested i = true ↔
    ∃ a, .request a ∈ ops ∧ s.forest.Above (s.signal a) i)
  waiters : s.waiters = (waits ops).map s.waiterOn

section
variable {ops : List SignalOp} {s t : SignalSession} {a b c h i p q : Nat}

theorem signal_of_lt (ht : t.handles = s.handles ++ [i]) (ha : a < s.handles.length) :
    t.signal a = s.signal a := by
  rw [signal, ht, List.getElem?_append_left ha, signal]

theorem signal_of_eq (ht : t.handles = s.handles ++ [i]) : t.signal s.handles.length = i := by
  rw [signal, ht, List.getElem?_concat_length, Option.getD_some]

theorem signal_of_handles (ht : t.handles = s.handles) (a : Nat) : t.signal a = s.signal a := by
  rw [signal, ht, signal]

/-- What a handle stands for depends on its signal and on that of the handle it was made from. -/
theorem Stands.of_same {op : SignalOp} (hs : s.Stands c op) (hc : t.signal c = s.signal c)
    (hop : t.signal op.handle = s.signal op.handle)
    (hunder : ∀ i p, s.forest.IsUnder i p → t.forest.IsUnder i p) : t.Stands c op := by
  cases op with
  | clone b => exact hc.trans (Eq.trans hs hop.symm)
  | child b =>
    show t.forest.IsUnder (t.signal c) (t.signal b)
    rw [hc, show t.signal b = s.signal b from hop]
    exact hunder _ _ hs
  | request b => trivial
  | wait b => trivial

namespace Tracks

theorem handle_lt_of_maker (hs : Tracks ops s) {op : SignalOp} (hc : maker? ops c = some op) :
    c < s.handles.length ∧ op.handle < s.handles.length :=
  ⟨hs.count ▸ maker?_lt hc, hs.named op (mem_of_maker? hc)⟩

theorem signal_clone (hs : Tracks ops s) (hc : maker? ops c = some (.clone b)) :
    s.signal c = s.signal b :=
  hs.stands c _ hc

theorem isUnder_child (hs : Tracks ops s) (hc : maker? ops c = some (.child b)) :
    s.forest.IsUnder (s.signal c) (s.signal b) :=
  hs.stands c _ hc

theorem lt_of_reaches (hs : Tracks ops s) (ha : a < s.handles.length) (h : Reaches ops a b) :
    b < s.handles.length := by
  induction h with
  | self => exact ha
  | clone _ hc => exact (hs.handle_lt_of_maker hc).1
  | original _ hc => exact (hs.handle_lt_of_maker hc).2
  | child _ hc => exact (hs.handle_lt_of_maker hc).1

/-- A request reaches the handles of the signals below. -/
theorem above_iff (hs : Tracks ops s) (ha : a < s.handles.length) (hb : b < s.handles.length) :
    s.forest.Above (s.signal a) (s.signal b) ↔ Reaches ops a b := by
  constructor
  · intro h
    obtain ⟨i, hi⟩ : ∃ i, s.signal b = i := ⟨_, rfl⟩
    rw [hi] at h
    induction h generalizing b with
    | self => exact hs.shared a b ha hb hi.symm
    | under hg hp _ ih =>
      obtain ⟨d, c, hc, hci, hdp⟩ := hs.made _ _ ⟨_, hg, hp⟩
      obtain ⟨hclt, hdlt⟩ := hs.handle_lt_of_maker hc
      have hcb : Reaches ops c b := hs.shared c b hclt hb (hci.trans hi.symm)
      exact ((ih hdlt hdp).child hc).trans hcb
  · intro h
    induction h with
    | self => exact .self
    | clone _ hc ih =>
      rw [hs.signal_clone hc]
      exact ih (hs.handle_lt_of_maker hc).2
    | original _ hc ih =>
      rw [← hs.signal_clone hc]
      exact ih (hs.handle_lt_of_maker hc).1
    | child _ hc ih =>
      exact SignalForest.above_iff.2 (.inr ⟨_, hs.isUnder_child hc, ih (hs.handle_lt_of_maker hc).2⟩)

/-- A handle is requested exactly if a request on some handle reaches it. -/
theorem isRequested_iff (hs : Tracks ops s) (hr : Remembers ops s) (hb : b < s.handles.length) :
    s.forest.isRequested (s.signal b) = true ↔ IsAsked ops b := by
  rw [hr.requests _ (hs.inForest b hb)]
  constructor
  · rintro ⟨a, ha, h⟩
    exact ⟨a, ha, (hs.above_iff (hs.named _ ha) hb).1 h⟩
  · rintro ⟨a, ha, h⟩
    exact ⟨a, ha, (hs.above_iff (hs.named _ ha) hb).2 h⟩

theorem signal_lt_of_child (hs : Tracks ops s) (hc : maker? ops c = some (.child p)) :
    s.signal p < s.signal c :=
  (tokenContract.lt_of_isUnder hs.ordered (hs.isUnder_child hc)).1

/-- A request on a child does not reach what the child was made under. -/
theorem not_reaches_parent (hs : Tracks ops s) (hc : maker? ops c = some (.child p)) :
    ¬ Reaches ops c p := by
  intro h
  obtain ⟨hclt, hplt⟩ : c < _ ∧ p < _ := hs.handle_lt_of_maker hc
  have hle := tokenContract.le_of_above hs.ordered ((hs.above_iff hclt hplt).2 h)
  have hlt := hs.signal_lt_of_child hc
  omega

/-- A request on a child does not reach another child of the same signal, nor of one above. -/
theorem not_reaches_sibling (hs : Tracks ops s) (hb : maker? ops b = some (.child p))
    (hc : maker? ops c = some (.child q)) (hqp : Reaches ops q p) (hne : b ≠ c) :
    ¬ Reaches ops b c := by
  intro h
  obtain ⟨hblt, hplt⟩ : b < _ ∧ p < _ := hs.handle_lt_of_maker hb
  obtain ⟨hclt, hqlt⟩ : c < _ ∧ q < _ := hs.handle_lt_of_maker hc
  have hsame : s.signal q ≤ s.signal p :=
    tokenContract.le_of_above hs.ordered ((hs.above_iff hqlt hplt).2 hqp)
  have hlt := hs.signal_lt_of_child hb
  -- the child `b` is the signal of `c`, or above one that `c` was made under
  rcases SignalForest.above_iff.1 ((hs.above_iff hblt hclt).2 h) with hsignal | ⟨i, hi, habove⟩
  · exact hne (hs.apart _ _ _ _ hb hc hsignal)
  · obtain ⟨q', c', hc', hsignal, rfl⟩ := hs.made _ _ hi
    obtain rfl : c' = c := hs.apart _ _ _ _ hc' hc hsignal
    obtain rfl : q' = q := by rw [hc'] at hc; cases hc; rfl
    have hle := tokenContract.le_of_above hs.ordered habove
    omega

/-! ## Operations -/

theorem new : Tracks [] new where
  ordered := tokenContract.isTree_new
  count := rfl
  named := by simp
  inForest := by decide
  stands := by intro c op hc; cases c <;> cases hc
  made := fun i p h => absurd h (tokenContract.not_isUnder_new i p)
  apart := by intro p q b c hb; cases b <;> cases hb
  shared := by
    intro a b ha hb _
    obtain rfl : a = 0 := Nat.lt_one_iff.1 ha
    obtain rfl : b = 0 := Nat.lt_one_iff.1 hb
    exact .self

theorem named_concat (hs : Tracks ops s) {op : SignalOp} (hop : op.handle < s.handles.length)
    (hlen : s.handles.length ≤ t.handles.length) :
    ∀ op' ∈ ops ++ [op], op'.handle < t.handles.length := by
  rw [List.forall_mem_append, List.forall_mem_singleton]
  exact ⟨fun op' h => Nat.lt_of_lt_of_le (hs.named op' h) hlen, Nat.lt_of_lt_of_le hop hlen⟩

/-- An operation that makes no handle and moves no signal. -/
theorem keep (hs : Tracks ops s) {op : SignalOp} (hop : op.makesHandle = false)
    (hh : op.handle < s.handles.length) (hhandles : t.handles = s.handles)
    (hordered : t.forest.IsOrdered)
    (hlength : t.forest.signals.length = s.forest.signals.length)
    (hunder : ∀ i p, t.forest.IsUnder i p ↔ s.forest.IsUnder i p) : Tracks (ops ++ [op]) t := by
  have hsignal : ∀ a, t.signal a = s.signal a := signal_of_handles hhandles
  have hmaker : maker? (ops ++ [op]) = maker? ops := maker?_concat_of_not hop
  refine ⟨hordered, ?_, hs.named_concat hh (Nat.le_of_eq (by rw [hhandles])), ?_, ?_, ?_, ?_, ?_⟩ <;>
    simp only [hsignal, hmaker, hhandles, hlength, hunder, handleCount_concat_of_not hop]
  · exact hs.count
  · exact hs.inForest
  · intro c op hc
    exact (hs.stands c op hc).of_same (hsignal _) (hsignal _) fun _ _ => (hunder _ _).2
  · exact hs.made
  · exact hs.apart
  · exact fun a b ha hb e => (hs.shared a b ha hb e).append

theorem request (hs : Tracks ops s) (hh : h < s.handles.length) :
    Tracks (ops ++ [.request h]) (s.apply (.request h)) :=
  hs.keep rfl hh rfl (tokenContract.isTree_request _ hs.ordered)
    (tokenContract.size_request _ _) (tokenContract.isUnder_request _ _)

theorem wait (hs : Tracks ops s) (hh : h < s.handles.length) :
    Tracks (ops ++ [.wait h]) (s.apply (.wait h)) :=
  hs.keep rfl hh rfl hs.ordered rfl fun _ _ => Iff.rfl

/-! An operation that makes a handle, which is the last one of the session `t` and stands for the
signal `i`. -/

section
variable {op op' : SignalOp}

theorem maker_cases (hs : Tracks ops s) (hop : op.makesHandle = true)
    (hc : maker? (ops ++ [op]) c = some op') :
    c = s.handles.length ∧ op = op' ∨ c < s.handles.length ∧ maker? ops c = some op' := by
  rw [maker?_concat hop, ← hs.count] at hc
  split at hc
  · exact .inl ⟨‹_›, Option.some.inj hc⟩
  · exact .inr ⟨(hs.handle_lt_of_maker hc).1, hc⟩

theorem maker_new (hs : Tracks ops s) (hop : op.makesHandle = true) :
    maker? (ops ++ [op]) s.handles.length = some op := by
  rw [maker?_concat hop, if_pos hs.count]

theorem count_concat (hs : Tracks ops s) (hop : op.makesHandle = true)
    (ht : t.handles = s.handles ++ [i]) : t.handles.length = handleCount (ops ++ [op]) := by
  rw [handleCount_concat hop, ← hs.count, ht, List.length_append, List.length_singleton]

theorem lt_or_eq_of_lt (ht : t.handles = s.handles ++ [i]) (ha : a < t.handles.length) :
    a < s.handles.length ∨ a = s.handles.length := by
  rw [ht, List.length_append, List.length_singleton] at ha
  omega

theorem inForest_concat (hs : Tracks ops s) (ht : t.handles = s.handles ++ [i])
    (hi : i < t.forest.signals.length)
    (hle : s.forest.signals.length ≤ t.forest.signals.length) :
    ∀ a < t.handles.length, t.signal a < t.forest.signals.length := by
  intro a ha
  rcases lt_or_eq_of_lt ht ha with ha | rfl
  · rw [signal_of_lt ht ha]
    exact Nat.lt_of_lt_of_le (hs.inForest a ha) hle
  · rw [signal_of_eq ht]
    exact hi

theorem stands_concat (hs : Tracks ops s) (hop : op.makesHandle = true)
    (ht : t.handles = s.handles ++ [i])
    (hunder : ∀ i p, s.forest.IsUnder i p → t.forest.IsUnder i p)
    (hnew : t.Stands s.handles.length op) :
    ∀ c op', maker? (ops ++ [op]) c = some op' → t.Stands c op' := by
  intro c op' hc
  rcases hs.maker_cases hop hc with ⟨rfl, rfl⟩ | ⟨hclt, hc⟩
  · exact hnew
  · exact (hs.stands c op' hc).of_same (signal_of_lt ht hclt)
      (signal_of_lt ht (hs.handle_lt_of_maker hc).2) hunder

theorem made_concat (hs : Tracks ops s) (ht : t.handles = s.handles ++ [i]) {j : Nat}
    (hj : s.forest.IsUnder j p) :
    ∃ b c, maker? (ops ++ [op]) c = some (.child b) ∧ t.signal c = j ∧ t.signal b = p := by
  obtain ⟨b, c, hc, rfl, rfl⟩ := hs.made j p hj
  exact ⟨b, c, maker?_append hc, signal_of_lt ht (hs.handle_lt_of_maker hc).1,
    signal_of_lt ht (hs.handle_lt_of_maker hc).2⟩

end

theorem clone (hs : Tracks ops s) (hh : h < s.handles.length) :
    Tracks (ops ++ [.clone h]) (s.apply (.clone h)) := by
  have ht : (s.apply (.clone h)).handles = s.handles ++ [s.signal h] := rfl
  have hnew : (s.apply (.clone h)).signal s.handles.length = s.signal h := signal_of_eq ht
  have hold : ∀ a < s.handles.length, (s.apply (.clone h)).signal a = s.signal a :=
    fun a => signal_of_lt ht
  have hto : Reaches (ops ++ [.clone h]) h s.handles.length := .clone .self (hs.maker_new rfl)
  have hfrom : Reaches (ops ++ [.clone h]) s.handles.length h := .original .self (hs.maker_new rfl)
  refine ⟨hs.ordered, hs.count_concat rfl ht, hs.named_concat hh (by simp [ht]),
    hs.inForest_concat ht (hs.inForest h hh) (Nat.le_refl _),
    hs.stands_concat rfl ht (fun _ _ => id) (hnew.trans (hold h hh).symm),
    fun i p => hs.made_concat ht, ?_, ?_⟩
  · intro p q b c hb hc e
    rcases hs.maker_cases rfl hb with ⟨-, e'⟩ | ⟨hblt, hb⟩
    · cases e'
    rcases hs.maker_cases rfl hc with ⟨-, e'⟩ | ⟨hclt, hc⟩
    · cases e'
    rw [hold b hblt, hold c hclt] at e
    exact hs.apart p q b c hb hc e
  · intro a b ha hb e
    rcases lt_or_eq_of_lt ht ha with ha | rfl <;> rcases lt_or_eq_of_lt ht hb with hb | rfl
    · rw [hold a ha, hold b hb] at e
      exact (hs.shared a b ha hb e).append
    · rw [hold a ha, hnew] at e
      exact (hs.shared a h ha hh e).append.trans hto
    · rw [hold b hb, hnew] at e
      exact hfrom.trans (hs.shared h b hh hb e).append
    · exact .self

theorem child (hs : Tracks ops s) (hh : h < s.handles.length) :
    Tracks (ops ++ [.child h]) (s.apply (.child h)) := by
  have ht : (s.apply (.child h)).handles = s.handles ++ [s.forest.signals.length] := rfl
  have hnew : (s.apply (.child h)).signal s.handles.length = s.forest.signals.length :=
    signal_of_eq ht
  have hold : ∀ a < s.handles.length, (s.apply (.child h)).signal a = s.signal a :=
    fun a => signal_of_lt ht
  -- no handle stood for the new signal
  have hne : ∀ a < s.handles.length, s.signal a ≠ s.forest.signals.length :=
    fun a ha => Nat.ne_of_lt (hs.inForest a ha)
  have hunder : ∀ i p, (s.apply (.child h)).forest.IsUnder i p ↔
      s.forest.IsUnder i p ∨ i = s.forest.signals.length ∧ p = s.signal h :=
    tokenContract.isUnder_child _ _
  have hlength : (s.apply (.child h)).forest.signals.length = s.forest.signals.length + 1 :=
    tokenContract.size_child _ _
  refine ⟨tokenContract.isTree_child hs.ordered (hs.inForest h hh), hs.count_concat rfl ht,
    hs.named_concat hh (by simp [ht]), hs.inForest_concat ht (by omega) (by omega),
    hs.stands_concat rfl ht (fun i p hip => (hunder i p).2 (.inl hip))
      ((hunder _ _).2 (.inr ⟨hnew, hold h hh⟩)), ?_, ?_, ?_⟩
  · intro i p hip
    rcases (hunder i p).1 hip with hip | ⟨rfl, rfl⟩
    · exact hs.made_concat ht hip
    · exact ⟨h, s.handles.length, hs.maker_new rfl, hnew, hold h hh⟩
  · intro p q b c hb hc e
    rcases hs.maker_cases rfl hb with ⟨rfl, -⟩ | ⟨hblt, hb⟩ <;>
      rcases hs.maker_cases rfl hc with ⟨rfl, -⟩ | ⟨hclt, hc⟩
    · rfl
    · rw [hnew, hold c hclt] at e
      exact absurd e.symm (hne c hclt)
    · rw [hnew, hold b hblt] at e
      exact absurd e (hne b hblt)
    · rw [hold b hblt, hold c hclt] at e
      exact hs.apart p q b c hb hc e
  · intro a b ha hb e
    rcases lt_or_eq_of_lt ht ha with ha | rfl <;> rcases lt_or_eq_of_lt ht hb with hb | rfl
    · rw [hold a ha, hold b hb] at e
      exact (hs.shared a b ha hb e).append
    · rw [hold a ha, hnew] at e
      exact absurd e (hne a ha)
    · rw [hold b hb, hnew] at e
      exact absurd e.symm (hne b hb)
    · exact .self

theorem apply (hs : Tracks ops s) {op : SignalOp} (hop : op.handle < s.handles.length) :
    Tracks (ops ++ [op]) (s.apply op) := by
  cases op with
  | child h => exact hs.child hop
  | clone h => exact hs.clone hop
  | request h => exact hs.request hop
  | wait h => exact hs.wait hop

theorem lt_of_mem_waits (hs : Tracks ops s) (h : a ∈ waits ops) : a < s.handles.length := by
  obtain ⟨op, hop, e⟩ := List.mem_filterMap.1 h
  cases op with
  | wait b => cases e; exact hs.named _ hop
  | _ => cases e

end Tracks

theorem signal_apply (ha : a < s.handles.length) (op : SignalOp) :
    (s.apply op).signal a = s.signal a := by
  cases op with
  | child h => exact signal_of_lt (i := s.forest.signals.length) rfl ha
  | clone h => exact signal_of_lt (i := s.signal h) rfl ha
  | request h => rfl
  | wait h => rfl

/-- A request among some operations and one more. -/
theorem exists_request_concat {op : SignalOp} {P : Nat → Prop} :
    (∃ a, .request a ∈ ops ++ [op] ∧ P a) ↔
      (∃ a, .request a ∈ ops ∧ P a) ∨ ∃ a, op = .request a ∧ P a := by
  simp only [List.mem_append, List.mem_singleton, or_and_right, exists_or, eq_comm]

namespace Remembers

theorem new : Remembers [] new where
  requests := by
    intro i hi
    obtain rfl : i = 0 := Nat.lt_one_iff.1 hi
    simp [SignalSession.new, tokenContract.requested_new]
  waiters := rfl

theorem waiters_concat (hr : Remembers ops s) {op : SignalOp}
    (hkeep : ∀ a ∈ waits ops, t.waiterOn a = s.waiterOn a)
    (ht : t.waiters = s.waiters ++ op.waited?.toList.map t.waiterOn) :
    t.waiters = (waits (ops ++ [op])).map t.waiterOn := by
  rw [ht, waits_concat, List.map_append, List.map_congr_left hkeep, hr.waiters]

theorem child (hr : Remembers ops s) (hs : Tracks ops s) (hh : h < s.handles.length) :
    Remembers (ops ++ [.child h]) (s.apply (.child h)) where
  requests := by
    intro i hi
    have hsignal : ∀ a, .request a ∈ ops → (s.apply (.child h)).signal a = s.signal a :=
      fun a ha => signal_apply (hs.named _ ha) _
    have hp : s.signal h < s.forest.signals.length := hs.inForest h hh
    rw [exists_request_concat, or_iff_left (by simp)]
    rcases Nat.lt_succ_iff_lt_or_eq.1
      (Nat.lt_of_lt_of_eq hi (tokenContract.size_child _ _)) with hi | rfl
    · refine (Bool.eq_iff_iff.1 (tokenContract.keeps hs.ordered hp hi)).trans ?_
      rw [hr.requests i hi]
      refine exists_congr fun a => and_congr_right fun ha => ?_
      rw [hsignal a ha]
      exact (tokenContract.above_child hs.ordered _ hi).symm
    · -- the new signal is requested with the one that it is made under
      refine (Bool.eq_iff_iff.1 (tokenContract.inherits hs.ordered hp)).trans ?_
      rw [hr.requests _ hp]
      refine exists_congr fun a => and_congr_right fun ha => ?_
      rw [hsignal a ha]
      refine Iff.symm ((tokenContract.above_child_self hs.ordered hp).trans ?_)
      exact or_iff_right (Nat.ne_of_lt (hs.inForest a (hs.named _ ha)))
  waiters := by
    refine hr.waiters_concat (fun a ha => ?_) (List.append_nil _).symm
    have halt := hs.lt_of_mem_waits ha
    rw [waiterOn, signal_apply halt, waiterOn]
    exact congrArg _
      (tokenContract.keeps hs.ordered (hs.inForest h hh) (hs.inForest a halt))

/-- An operation that neither makes a signal nor requests one. -/
theorem requests_concat (hr : Remembers ops s) (hs : Tracks ops s) {op : SignalOp}
    (hop : ∀ a, op ≠ .request a) (hforest : (s.apply op).forest = s.forest) (i : Nat)
    (hi : i < (s.apply op).forest.signals.length) : (s.apply op).forest.isRequested i = true ↔
      ∃ a, .request a ∈ ops ++ [op] ∧ (s.apply op).forest.Above ((s.apply op).signal a) i := by
  rw [hforest] at hi ⊢
  rw [exists_request_concat, or_iff_left (by simp [hop]), hr.requests i hi]
  refine exists_congr fun a => and_congr_right fun ha => ?_
  rw [signal_apply (a := a) (hs.named _ ha)]

theorem clone (hr : Remembers ops s) (hs : Tracks ops s) :
    Remembers (ops ++ [.clone h]) (s.apply (.clone h)) where
  requests := hr.requests_concat hs (by simp) rfl
  waiters := by
    refine hr.waiters_concat (fun a ha => ?_) (List.append_nil _).symm
    rw [waiterOn, signal_apply (hs.lt_of_mem_waits ha), waiterOn]
    rfl

theorem wait (hr : Remembers ops s) (hs : Tracks ops s) :
    Remembers (ops ++ [.wait h]) (s.apply (.wait h)) where
  requests := hr.requests_concat hs (by simp) rfl
  waiters := hr.waiters_concat (fun _ _ => rfl) rfl

theorem request (hr : Remembers ops s) (hs : Tracks ops s) (hh : h < s.handles.length) :
    Remembers (ops ++ [.request h]) (s.apply (.request h)) where
  requests := by
    intro i hi
    have hold : i < s.forest.signals.length :=
      Nat.lt_of_lt_of_eq hi (tokenContract.size_request _ _)
    have habove : ∀ j, (s.apply (.request h)).forest.Above j i ↔ s.forest.Above j i :=
      fun _ => tokenContract.above_request hs.ordered _
    have hsignal : ∀ a, (s.apply (.request h)).signal a = s.signal a := fun _ => rfl
    refine (tokenContract.isRequested_request hs.ordered (hs.inForest h hh)).trans ?_
    rw [exists_request_concat, hr.requests i hold]
    simp [habove, hsignal]
  waiters := by
    -- who was woken is woken, and the others look again
    have hlook : ∀ a, (s.waiterOn a).look (s.forest.request (s.signal h)) =
        (s.apply (.request h)).waiterOn a := by
      intro a
      have hkept : s.forest.isRequested (s.signal a) = true →
          (s.forest.request (s.signal h)).isRequested (s.signal a) = true :=
        tokenContract.sticky _ hs.ordered
      show Waiter.mk _ (_ || _) = Waiter.mk _ _
      cases hrequested : s.forest.isRequested (s.signal a) with
      | true => rw [waiterOn, hrequested, Bool.true_or]; exact congrArg _ (hkept hrequested).symm
      | false => rw [waiterOn, hrequested, Bool.false_or]; rfl
    show s.waiters.map _ = _
    rw [hr.waiters, List.map_map, waits_concat]
    simp [SignalOp.waited?, hlook]

theorem apply (hr : Remembers ops s) (hs : Tracks ops s) {op : SignalOp}
    (hop : op.handle < s.handles.length) : Remembers (ops ++ [op]) (s.apply op) := by
  cases op with
  | child h => exact hr.child hs hop
  | clone h => exact hr.clone hs
  | request h => exact hr.request hs hop
  | wait h => exact hr.wait hs

end Remembers
end

/-! ## Sessions -/

section
variable {ops more : List SignalOp} {s s' : SignalSession} {a b : Nat}

theorem Leads.invariant (h : Leads ops s) : Tracks ops s ∧ Remembers ops s := by
  induction h with
  | new => exact ⟨.new, .new⟩
  | apply _ hop ih => exact ⟨ih.1.apply hop, ih.2.apply ih.1 hop⟩

theorem IsAsked.append (h : IsAsked ops b) : IsAsked (ops ++ more) b := by
  obtain ⟨a, ha, hab⟩ := h
  exact ⟨a, List.mem_append_left _ ha, hab.append⟩

/-- One more request. -/
theorem isAsked_request : IsAsked (ops ++ [.request a]) b ↔ IsAsked ops b ∨ Reaches ops a b := by
  have hmaker : maker? (ops ++ [.request a]) = maker? ops := maker?_concat_of_not rfl
  have hreaches : ∀ {c}, Reaches (ops ++ [.request a]) c b → Reaches ops c b :=
    fun h => h.mono fun _ _ hc => by rwa [hmaker] at hc
  constructor
  · rintro ⟨c, hc, hcb⟩
    rcases List.mem_append.1 hc with hc | hc
    · exact .inl ⟨c, hc, hreaches hcb⟩
    · cases List.mem_singleton.1 hc
      exact .inr (hreaches hcb)
  · rintro (h | h)
    · exact h.append
    · exact ⟨a, by simp, h.append⟩

/-- What a session answers about its handles. -/
theorem Leads.requested_iff (h : Leads ops s) : s.requested[b]? = some true ↔ IsAsked ops b := by
  obtain ⟨ht, hr⟩ := h.invariant
  rw [requested, List.getElem?_map]
  by_cases hb : b < s.handles.length
  · have hsignal : s.handles[b]? = some (s.signal b) := by
      rw [signal, List.getElem?_eq_getElem hb, Option.getD_some]
    rw [hsignal, Option.map_some, Option.some.injEq, ht.isRequested_iff hr hb]
  · rw [List.getElem?_eq_none (Nat.le_of_not_lt hb)]
    refine iff_of_false nofun ?_
    rintro ⟨a, ha, hab⟩
    exact hb (ht.lt_of_reaches (ht.named _ ha) hab)

theorem Leads.woken_iff (h : Leads ops s) (j : Nat) : s.woken[j]? = some true ↔
    ∃ b, (waits ops)[j]? = some b ∧ IsAsked ops b := by
  obtain ⟨ht, hr⟩ := h.invariant
  rw [woken, hr.waiters, List.map_map, List.getElem?_map, Option.map_eq_some_iff]
  refine exists_congr fun b => and_congr_right fun hb => ?_
  exact ht.isRequested_iff hr (ht.lt_of_mem_waits (List.mem_of_getElem? hb))

end

/-- How the handles and waiters of a session stand after some operations. -/
structure Lawful (ops : List SignalOp) (s : SignalSession) : Prop where
  /-- There is an answer for each handle that was made, and for each waiter. -/
  answers : s.requested.length = handleCount ops ∧ s.woken.length = (waits ops).length
  /-- A handle is requested exactly if a request reaches it, whenever it was made. -/
  requested : ∀ b : Nat, s.requested[b]? = some true ↔ IsAsked ops b
  /-- A waiter is woken exactly if the handle that it waits on is requested, whatever came first. -/
  woken : ∀ j : Nat, s.woken[j]? = some true ↔ ∃ b, (waits ops)[j]? = some b ∧ IsAsked ops b
  /-- What is requested stays so. -/
  stays : ∀ more s', Leads (ops ++ more) s' → ∀ b : Nat, s.requested[b]? = some true →
    s'.requested[b]? = some true
  /-- One more request changes nothing for the handles that it does not reach. -/
  request : ∀ a < s.handles.length, ∀ b : Nat, (s.apply (.request a)).requested[b]? = some true ↔
    s.requested[b]? = some true ∨ Reaches ops a b
  /-- It never reaches what the handle's signal was made under at any depth. -/
  upward : ∀ a p c, maker? ops c = some (.child p) → Reaches ops a p → ¬ Reaches ops c a
  /-- Nor does it reach other children of that. -/
  sideways : ∀ p q b c, maker? ops b = some (.child p) → maker? ops c = some (.child q) →
    Reaches ops q p → b ≠ c → ¬ Reaches ops b c

/-- Requests reach the handles of a signal and of all signals under it, for good, and no other. -/
theorem signals_lawful {ops : List SignalOp} {s : SignalSession} (h : Leads ops s) :
    Lawful ops s where
  answers := by
    obtain ⟨ht, hr⟩ := h.invariant
    rw [requested, List.length_map, woken, List.length_map, hr.waiters, List.length_map]
    exact ⟨ht.count, rfl⟩
  requested := fun _ => h.requested_iff
  woken := h.woken_iff
  stays := by
    intro more s' h' b hb
    exact h'.requested_iff.2 (h.requested_iff.1 hb).append
  request := by
    intro a ha b
    have hnext : Leads (ops ++ [.request a]) (s.apply (.request a)) := h.apply ha
    rw [hnext.requested_iff, h.requested_iff, isAsked_request]
  upward := by
    intro a p c hc hap hca
    exact h.invariant.1.not_reaches_parent hc (hca.trans hap)
  sideways := by
    intro p q b c hb hc hqp hne
    exact h.invariant.1.not_reaches_sibling hb hc hqp hne

/-- Two children of the first signal, of which one is cloned. The clone gets a child, which is waited
on before the clone is requested. -/
def trialOps : List SignalOp :=
  [.child 0, .clone 1, .child 2, .child 0, .wait 3, .request 2, .child 1]

/-- The session after them. -/
def trialSession : SignalSession := trialOps.foldl apply new

theorem trialOps_leads : Leads trialOps trialSession := by
  have h₁ : Leads [.child 0] _ := Leads.new.apply (by decide)
  have h₂ : Leads [.child 0, .clone 1] _ := h₁.apply (by decide)
  have h₃ : Leads [.child 0, .clone 1, .child 2] _ := h₂.apply (by decide)
  have h₄ : Leads [.child 0, .clone 1, .child 2, .child 0] _ := h₃.apply (by decide)
  have h₅ : Leads [.child 0, .clone 1, .child 2, .child 0, .wait 3] _ := h₄.apply (by decide)
  have h₆ : Leads [.child 0, .clone 1, .child 2, .child 0, .wait 3, .request 2] _ :=
    h₅.apply (by decide)
  exact h₆.apply (by decide)

/-- The request on the clone reaches what it is a clone of, its child and a child that is made
later, and neither the first signal nor its other child. -/
theorem trialSession_lawful : Leads trialOps trialSession ∧ Lawful trialOps trialSession ∧
    trialSession.requested = [false, true, true, true, false, true] ∧
    trialSession.woken = [true] :=
  ⟨trialOps_leads, signals_lawful trialOps_leads, by decide, by decide⟩

end SignalSession

end TunnelRelay
