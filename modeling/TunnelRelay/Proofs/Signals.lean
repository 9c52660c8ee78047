import TunnelRelay.Signal
/-!
# Which signals a request reaches

`TokenContract` says what is relied on of the signals: a request is never taken back, it reaches what
is made under a signal, whether that is made before or after, and it reaches nothing else, so never
what the signal itself is made under. The contract names no more than the operations and where a
signal was made, and what follows from it is shown for whatever meets it. `SignalForest` does
(`SignalForest.tokenContract`); what is stored in a forest matters to nothing but the proof of that.
-/

namespace TunnelRelay

/-! ## The contract -/

/-- What is relied on of trees of tokens. The tokens of a tree `t` are known by their places, which
are those below `size t`. `isUnder t i p` says that the token `i` was made under the token `p`, and
`above t j i` that `j` is `i`, or a token that `i` was made under at any depth. -/
structure TokenContract {T : Type} (isTree : T → Prop) (size : T → Nat)
    (isUnder above : T → Nat → Nat → Prop) (new : T) (child : T → Nat → T × Nat)
    (request : T → Nat → T) (isRequested : T → Nat → Bool) : Prop where
  isTree_new : isTree new
  size_new : size new = 1
  not_isUnder_new : ∀ i p, ¬ isUnder new i p
  requested_new : isRequested new 0 = false
  isTree_child : ∀ {t p}, isTree t → p < size t → isTree (child t p).1
  size_child : ∀ t p, size (child t p).1 = size t + 1
  /-- A new token gets the next place. -/
  child_snd : ∀ t p, (child t p).2 = size t
  isUnder_child : ∀ t h i p, isUnder (child t h).1 i p ↔ isUnder t i p ∨ i = size t ∧ p = h
  isTree_request : ∀ {t} k, isTree t → isTree (request t k)
  size_request : ∀ t k, size (request t k) = size t
  isUnder_request : ∀ t k i p, isUnder (request t k) i p ↔ isUnder t i p
  /-- A token is made under one that is there. -/
  lt_of_isUnder : ∀ {t i p}, isTree t → isUnder t i p → p < i ∧ i < size t
  above_iff : ∀ {t j i}, above t j i ↔ j = i ∨ ∃ p, isUnder t i p ∧ above t j p
  /-- A request is never taken back by another one. -/
  sticky : ∀ {t i} k, isTree t → isRequested t i = true → isRequested (request t k) i = true
  /-- It reaches what was made under the token before. -/
  reaches : ∀ {t k i}, isTree t → k < size t → above t k i → isRequested (request t k) i = true
  /-- It reaches what is made under it after. -/
  inherits : ∀ {t p}, isTree t → p < size t →
    isRequested (child t p).1 (size t) = isRequested t p
  /-- It reaches nothing else. -/
  spares : ∀ {t k i}, isTree t → isRequested (request t k) i = true →
    isRequested t i = true ∨ above t k i
  /-- A new token requests none of the others, and takes no request back. -/
  keeps : ∀ {t p i}, isTree t → p < size t → i < size t →
    isRequested (child t p).1 i = isRequested t i

namespace TokenContract

section
variable {T : Type} {isTree : T → Prop} {size : T → Nat} {isUnder above : T → Nat → Nat → Prop}
  {new : T} {child : T → Nat → T × Nat} {request : T → Nat → T} {isRequested : T → Nat → Bool}
  {t : T} {i j k p : Nat}
  (h : TokenContract isTree size isUnder above new child request isRequested)
include h

theorem le_of_above (ht : isTree t) (hji : above t j i) : j ≤ i := by
  induction i using Nat.strongRecOn with
  | ind i ih =>
    rcases h.above_iff.1 hji with rfl | ⟨p, hp, hjp⟩
    · exact Nat.le_refl j
    · have hlt := (h.lt_of_isUnder ht hp).1
      exact Nat.le_trans (ih p hlt hjp) (Nat.le_of_lt hlt)

theorem above_request (ht : isTree t) (k : Nat) :
    above (request t k) j i ↔ above t j i := by
  induction i using Nat.strongRecOn with
  | ind i ih =>
    rw [h.above_iff, h.above_iff (t := t)]
    refine or_congr_right (exists_congr fun p => ?_)
    rw [h.isUnder_request]
    exact and_congr_right fun hp => ih p (h.lt_of_isUnder ht hp).1

/-- What is above a token does not depend on tokens that are made later. -/
theorem above_child (ht : isTree t) (p : Nat) (hi : i < size t) :
    above (child t p).1 j i ↔ above t j i := by
  induction i using Nat.strongRecOn with
  | ind i ih =>
    rw [h.above_iff, h.above_iff (t := t)]
    refine or_congr_right (exists_congr fun q => ?_)
    rw [h.isUnder_child, or_iff_left fun e => absurd e.1 (Nat.ne_of_lt hi)]
    refine and_congr_right fun hq => ?_
    have hlt := (h.lt_of_isUnder ht hq).1
    exact ih q hlt (Nat.lt_trans hlt hi)

/-- Above a new token there are itself and what is above the one that it is made under. -/
theorem above_child_self (ht : isTree t) (hp : p < size t) :
    above (child t p).1 j (size t) ↔ j = size t ∨ above t j p := by
  have hnone : ∀ q, ¬ isUnder t (size t) q :=
    fun q hq => Nat.lt_irrefl _ (h.lt_of_isUnder ht hq).2
  rw [h.above_iff]
  simp only [h.isUnder_child, hnone, false_or, true_and, exists_eq_left]
  rw [h.above_child ht p hp]

/-- No token that was there is made under a new one. -/
theorem not_above_child (ht : isTree t) (hi : i < size t) : ¬ above (child t p).1 (size t) i := by
  rw [h.above_child ht p hi]
  intro habove
  exact absurd (h.le_of_above ht habove) (Nat.not_le_of_lt hi)

/-- A request reaches the tokens below the one that it is made on, and no other. -/
theorem isRequested_request (ht : isTree t) (hk : k < size t) :
    isRequested (request t k) i = true ↔ isRequested t i = true ∨ above t k i := by
  constructor
  · exact h.spares ht
  · rintro (hr | ha)
    · exact h.sticky k ht hr
    · exact h.reaches ht hk ha

/-- A request never reaches upward: one on a new token changes nothing for the others. -/
theorem isRequested_request_child (ht : isTree t) (hp : p < size t) (hi : i < size t) :
    isRequested (request (child t p).1 (child t p).2) i = isRequested t i := by
  have ht' := h.isTree_child ht hp
  rw [← h.keeps ht hp hi, h.child_snd, Bool.eq_iff_iff, h.isRequested_request ht'
    (by rw [h.size_child]; exact Nat.lt_succ_self _)]
  exact or_iff_left (h.not_above_child ht hi)

end

end TokenContract

/-! ## Forests of signals -/

namespace SignalForest

/-- Each signal was made after the one that it was made under. -/
def IsOrdered (f : SignalForest) : Prop :=
  ∀ (i : Nat) (s : Signal) (p : Nat), f.signals[i]? = some s → s.parent = some p → p < i

/-- The signal `j` is the signal `i`, or one that this was made under at any depth. -/
inductive Above (f : SignalForest) (j : Nat) : Nat → Prop
  | self : Above f j j
  | under {i p : Nat} {s : Signal} (hs : f.signals[i]? = some s) (hp : s.parent = some p)
    (h : Above f j p) : Above f j i

/-- The signal `i` was made under the signal `p`. -/
def IsUnder (f : SignalForest) (i p : Nat) : Prop :=
  ∃ s, f.signals[i]? = some s ∧ s.parent = some p

/-- The signal was itself requested. -/
def IsMarked (f : SignalForest) (i : Nat) : Prop :=
  ∃ s, f.signals[i]? = some s ∧ s.requested = true

variable {f : SignalForest} {i j k p : Nat}

theorem isOrdered_new : new.IsOrdered := by
  intro i s p hs hp
  cases i with
  | zero => cases hs; cases hp
  | succ i => cases hs

theorem above_iff : f.Above j i ↔ j = i ∨ ∃ p, f.IsUnder i p ∧ f.Above j p := by
  constructor
  · intro h
    cases h with
    | self => exact .inl rfl
    | under hs hp h => exact .inr ⟨_, ⟨_, hs, hp⟩, h⟩
  · rintro (rfl | ⟨p, ⟨s, hs, hp⟩, h⟩)
    · exact .self
    · exact .under hs hp h

theorem IsOrdered.lt_of_isUnder (ho : f.IsOrdered) (h : f.IsUnder i p) :
    p < i ∧ i < f.signals.length := by
  obtain ⟨s, hs, hp⟩ := h
  exact ⟨ho i s p hs hp, (List.getElem?_eq_some_iff.1 hs).1⟩

/-! ### Who is requested -/

/-- Where signals are ordered, it does not matter how far beyond a signal's place the fuel goes. -/
theorem IsOrdered.reaches_eq (ho : f.IsOrdered) {fuel fuel' : Nat} : ∀ {i : Nat},
    i < fuel → i < fuel' → f.reaches fuel i = f.reaches fuel' i := by
  induction fuel generalizing fuel' with
  | zero => intro i hi; exact absurd hi (Nat.not_lt_zero i)
  | succ fuel ih =>
    intro i hi hi'
    cases fuel' with
    | zero => exact absurd hi' (Nat.not_lt_zero i)
    | succ fuel' =>
      unfold reaches
      cases hs : f.signals[i]? with
      | none => rfl
      | some s =>
        dsimp only
        cases hp : s.parent with
        | none => rfl
        | some p =>
          have hlt := ho i s p hs hp
          exact congrArg (s.requested || ·) (ih (by omega) (by omega))

/-- A signal is requested exactly if it was itself requested or the one that it was made under is. -/
theorem isRequested_iff (ho : f.IsOrdered) : f.isRequested i = true ↔
    f.IsMarked i ∨ ∃ p, f.IsUnder i p ∧ f.isRequested p = true := by
  rw [isRequested, reaches, IsMarked]
  unfold IsUnder
  cases hs : f.signals[i]? with
  | none => simp
  | some s =>
    dsimp only
    rw [Bool.or_eq_true]
    cases hp : s.parent with
    | none => simp [hp]
    | some p =>
      have hlt := ho i s p hs hp
      simp [hp, isRequested, ho.reaches_eq hlt (Nat.lt_succ_self p)]

/-! ### Requests -/

theorem request_getElem? (f : SignalForest) (k i : Nat) : (f.request k).signals[i]? =
    (f.signals[i]?).map fun s => if k = i then { s with requested := true } else s := by
  rw [request, List.getElem?_modify]
  cases f.signals[i]? with
  | none => rfl
  | some s => rfl

theorem request_length (f : SignalForest) (k : Nat) :
    (f.request k).signals.length = f.signals.length := by
  rw [request, List.length_modify]

/-- A request moves no signal. -/
theorem isUnder_request : (f.request k).IsUnder i p ↔ f.IsUnder i p := by
  rw [IsUnder, IsUnder, request_getElem?]
  cases f.signals[i]? with
  | none => simp
  | some s => by_cases hk : k = i <;> simp [hk]

theorem isMarked_request :
    (f.request k).IsMarked i ↔ f.IsMarked i ∨ k < f.signals.length ∧ k = i := by
  rw [IsMarked, IsMarked, request_getElem?]
  by_cases hk : k = i
  · subst hk
    by_cases hlt : k < f.signals.length <;> simp [hlt]
  · simp [hk]

theorem IsOrdered.request (ho : f.IsOrdered) (k : Nat) : (f.request k).IsOrdered := by
  intro i s p hs hp
  exact (ho.lt_of_isUnder (isUnder_request.1 ⟨s, hs, hp⟩)).1

/-- A request reaches the signals below the one that it is made on, and no other. -/
theorem isRequested_request (ho : f.IsOrdered) : (f.request k).isRequested i = true ↔
    f.isRequested i = true ∨ k < f.signals.length ∧ f.Above k i := by
  induction i using Nat.strongRecOn with
  | ind i ih =>
    have hup : (∃ p, f.IsUnder i p ∧ (f.request k).isRequested p = true) ↔
        (∃ p, f.IsUnder i p ∧ f.isRequested p = true) ∨
          k < f.signals.length ∧ ∃ p, f.IsUnder i p ∧ f.Above k p := by
      constructor
      · rintro ⟨p, hp, hr⟩
        rcases (ih p (ho.lt_of_isUnder hp).1).1 hr with hr | ⟨hk, ha⟩
        · exact .inl ⟨p, hp, hr⟩
        · exact .inr ⟨hk, p, hp, ha⟩
      · rintro (⟨p, hp, hr⟩ | ⟨hk, p, hp, ha⟩)
        · exact ⟨p, hp, (ih p (ho.lt_of_isUnder hp).1).2 (.inl hr)⟩
        · exact ⟨p, hp, (ih p (ho.lt_of_isUnder hp).1).2 (.inr ⟨hk, ha⟩)⟩
    rw [isRequested_iff (ho.request k), isRequested_iff ho, isMarked_request, above_iff,
      and_or_left]
    simp only [isUnder_request]
    rw [hup]
    exact or_or_or_comm

/-! ### New signals -/

theorem child_getElem? (f : SignalForest) (p i : Nat) : (f.child p).1.signals[i]? =
    if i = f.signals.length then some ⟨some p, false⟩ else f.signals[i]? := by
  rw [child, List.getElem?_append]
  rcases Nat.lt_trichotomy i f.signals.length with hi | rfl | hi
  · rw [if_pos hi, if_neg (Nat.ne_of_lt hi)]
  · simp
  · rw [if_neg (by omega), if_neg (by omega), List.getElem?_eq_none (by simp; omega),
      List.getElem?_eq_none (by omega)]

/-- A new signal is under the one that it is made under, and the others are where they were. -/
theorem isUnder_child {h : Nat} : (f.child h).1.IsUnder i p ↔
    f.IsUnder i p ∨ i = f.signals.length ∧ p = h := by
  rw [IsUnder, IsUnder, child_getElem?]
  by_cases hi : i = f.signals.length
  · simp [hi, eq_comm]
  · simp [hi]

/-- A new signal is not itself requested. -/
theorem isMarked_child : (f.child p).1.IsMarked i ↔ f.IsMarked i := by
  rw [IsMarked, IsMarked, child_getElem?]
  by_cases hi : i = f.signals.length <;> simp [hi]

theorem IsOrdered.child (ho : f.IsOrdered) (hp : p < f.signals.length) :
    (f.child p).1.IsOrdered := by
  intro i s q hs hq
  rcases isUnder_child.1 ⟨s, hs, hq⟩ with h | ⟨rfl, rfl⟩
  · exact (ho.lt_of_isUnder h).1
  · exact hp

theorem isRequested_child (ho : f.IsOrdered) (hp : p < f.signals.length)
    (hi : i < f.signals.length) : (f.child p).1.isRequested i = f.isRequested i := by
  induction i using Nat.strongRecOn with
  | ind i ih =>
    rw [Bool.eq_iff_iff, isRequested_iff (ho.child hp), isRequested_iff ho, isMarked_child]
    refine or_congr_right (exists_congr fun q => ?_)
    rw [isUnder_child, or_iff_left fun e => absurd e.1 (Nat.ne_of_lt hi)]
    refine and_congr_right fun hq => ?_
    have hlt := (ho.lt_of_isUnder hq).1
    rw [ih q hlt (Nat.lt_trans hlt hi)]

theorem isRequested_child_self (ho : f.IsOrdered) (hp : p < f.signals.length) :
    (f.child p).1.isRequested f.signals.length = f.isRequested p := by
  have hmarked : ¬ f.IsMarked f.signals.length := by simp [IsMarked]
  have hunder : ∀ q, ¬ f.IsUnder f.signals.length q := by simp [IsUnder]
  rw [← isRequested_child ho hp hp, Bool.eq_iff_iff, isRequested_iff (ho.child hp)]
  simp [isMarked_child, isUnder_child, hmarked, hunder]

/-! ### The contract of the forest -/

/-- A forest of signals meets the contract. -/
theorem tokenContract : TokenContract IsOrdered (fun f => f.signals.length) IsUnder Above new child
    request isRequested where
  isTree_new := isOrdered_new
  size_new := rfl
  not_isUnder_new := by
    rintro i p ⟨s, hs, hp⟩
    cases i with
    | zero => cases hs; cases hp
    | succ i => cases hs
  requested_new := rfl
  isTree_child := fun ho hp => ho.child hp
  size_child := fun _ _ => List.length_append
  child_snd := fun _ _ => rfl
  isUnder_child := fun _ _ _ _ => isUnder_child
  isTree_request := fun k ho => ho.request k
  size_request := request_length
  isUnder_request := fun _ _ _ _ => isUnder_request
  lt_of_isUnder := fun ho h => ho.lt_of_isUnder h
  above_iff := above_iff
  sticky := fun _ ho hr => (isRequested_request ho).2 (.inl hr)
  reaches := fun ho hk ha => (isRequested_request ho).2 (.inr ⟨hk, ha⟩)
  inherits := isRequested_child_self
  spares := fun ho hr => ((isRequested_request ho).1 hr).imp_right And.right
  keeps := isRequested_child

end SignalForest

end TunnelRelay
