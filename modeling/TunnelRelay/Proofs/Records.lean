import TunnelRelay.Config.Json
import TunnelRelay.Proofs.Skipping
/-!
# Reading what is written

`Reads read f` says that a reader makes of every value what `f` makes of its node, and leaves what
stands behind it. It is shown for the readers of scalars, and for a record if it holds for the
members of the record (`Schema.reads_ofNode`): what a record is depends on its node alone, with
`Schema.ofNode` for the dependence. Insignificant characters make no difference
(`Schema.ofNode_bare`).
-/

namespace TunnelRelay.Json

variable {α β : Type}

/-- What a reader makes of a value that stands alone. -/
def Node.readAs (read : Reader α) (n : Node) : Except Error α := (read n.render).map Prod.fst

/-- A reader takes the value ahead as `f` says, and leaves what stands behind it. -/
def Reads (read : Reader α) (f : Node → Except Error α) : Prop :=
  ∀ (s : Space) (n : Node) {rest : List Char}, EndsNumber rest →
    read (s.chars ++ (n.render ++ rest)) = (f n).map (·, rest)

theorem Reads.readAs_eq {read : Reader α} {f : Node → Except Error α} (h : Reads read f)
    (n : Node) : n.readAs read = f n := by
  have hn := h .none n .nil
  simp only [Space.none, List.nil_append, List.append_nil] at hn
  rw [Node.readAs, hn]
  cases f n <;> rfl

theorem Reads.bind {read : Reader α} {f : Node → Except Error α} (h : Reads read f)
    {next : α × List Char → Except Error (β × List Char)} {g : α → Except Error β}
    (hg : ∀ a rest, next (a, rest) = (g a).map (·, rest)) :
    Reads (fun cs => read cs >>= next) (fun n => f n >>= g) := by
  intro s n rest hr
  simp only [h s n hr]
  cases f n with
  | error e => rfl
  | ok a => exact hg a rest

/-- A reader that takes one value, whatever stands around it and whatever insignificant characters
stand in it. -/
structure ReadsValue (read : Reader α) : Prop where
  reads : Reads read (·.readAs read)
  readAs_bare : ∀ n : Node, n.bare.readAs read = n.readAs read

theorem Reads.readsValue {read : Reader α} {f : Node → Except Error α} (h : Reads read f)
    (hbare : ∀ n : Node, f n.bare = f n) : ReadsValue read where
  reads s n rest hr := by rw [h s n hr, ← h.readAs_eq]
  readAs_bare n := by rw [h.readAs_eq, h.readAs_eq, hbare]

theorem skipSpace_space (s : Space) (cs : List Char) :
    skipSpace (s.chars ++ cs) = skipSpace cs := by
  rw [skipSpace, List.dropWhile_append_of_pos s.isSpace, skipSpace]

theorem skipSpace_cons {c : Char} (hc : isSpace c = false) (s : Space) (cs : List Char) :
    skipSpace (s.chars ++ c :: cs) = c :: cs := by
  rw [skipSpace_space, skipSpace, List.dropWhile_cons_of_neg (by simp [hc])]

theorem skipSpace_node (s : Space) (n : Node) (rest : List Char) :
    skipSpace (s.chars ++ (n.render ++ rest)) = n.render ++ rest := by
  obtain ⟨c, cs, hn, hc⟩ := n.render_eq_cons
  rw [hn, List.cons_append, skipSpace_cons hc.1]

/-! ### Values of the wrong kind -/

namespace Node

/-- What a value turns out to be. Its scalars are read for it. -/
def found : Node → Except Error Found
  | .null => .ok .null
  | .bool b => .ok (.bool b)
  | .number n => n.number.map .number
  | .text q => q.text.map .text
  | .list _ _ => .ok .list
  | .object _ _ => .ok .object

/-- Why a value is not of the kind that is asked for. -/
def refusal (expected : String) (n : Node) : Error :=
  match n.found with
  | .ok found => .wrongKind found expected
  | .error e => e

end Node

/-- A number starts with its sign or with a digit, which tells how it is read. -/
theorem readNumber_chars (n : Numeral) {rest : List Char} (hr : EndsNumber rest) :
    (∃ cs, n.chars ++ rest = '-' :: cs ∧ readNumber true cs = n.number.map (·, rest)) ∨
      ∃ c cs, n.chars ++ rest = c :: cs ∧ c.isDigit = true ∧
        readNumber false (c :: cs) = n.number.map (·, rest) := by
  have hnumber := readNumber_magnitude n hr
  obtain ⟨c, ds, hc, hcd⟩ := n.whole.eq_cons
  cases hneg : n.isNegative with
  | true => exact .inl ⟨_, by rw [Numeral.chars, hneg]; rfl, hneg ▸ hnumber⟩
  | false =>
    have hchars : n.chars ++ rest = c :: (ds ++ n.tail ++ rest) := by
      rw [Numeral.chars, hneg, Numeral.magnitude, hc]
      rfl
    refine .inr ⟨c, _, hchars, hcd, ?_⟩
    rw [hneg] at hnumber
    rw [← hchars, Numeral.chars, hneg]
    exact hnumber

/-- No other character starts a number. -/
theorem Numeral.chars_eq_cons (n : Numeral) :
    ∃ c cs, n.chars = c :: cs ∧ ∀ d : Char, d.isDigit = false → d ≠ '-' → c ≠ d := by
  obtain ⟨cs, hchars, -⟩ | ⟨c, cs, hchars, hc, -⟩ := readNumber_chars n .nil
  · exact ⟨_, _, (List.append_nil _).symm.trans hchars, fun d _ hm => hm.symm⟩
  · exact ⟨c, cs, (List.append_nil _).symm.trans hchars, fun d hd _ => ne_of_isDigit hc hd⟩

theorem wrongKind_number (expected : String) (n : Numeral) {rest : List Char}
    (hr : EndsNumber rest) :
    wrongKind expected (n.chars ++ rest) = (Node.number n).refusal expected := by
  rw [Node.refusal, Node.found]
  obtain ⟨cs, hchars, hnumber⟩ | ⟨c, cs, hchars, hc, hnumber⟩ := readNumber_chars n hr
  · rw [hchars]
    simp only [wrongKind, hnumber]
    cases n.number <;> rfl
  · have hne : ∀ d : Char, d.isDigit = false → c ≠ d := fun d => ne_of_isDigit hc
    rw [hchars]
    simp only [wrongKind, hne 'n' rfl, hne 't' rfl, hne 'f' rfl, hne '-' rfl, hc, if_true, if_false,
      hnumber]
    cases n.number <;> rfl

theorem wrongKind_node (expected : String) (n : Node) {rest : List Char} (hr : EndsNumber rest) :
    wrongKind expected (n.render ++ rest) = n.refusal expected := by
  cases n with
  | bool b => cases b <;> rfl
  | number n => exact wrongKind_number expected n hr
  | text q =>
    have htext := textFrom_chars q [] rest
    simp only [Node.render, List.cons_append, List.append_assoc, List.nil_append, wrongKind,
      readText, htext, Node.refusal, Node.found]
    cases q.text <;> rfl
  | null | list | object => rfl

/-! ### Scalars -/

namespace Node

/-- The value as an integer between 0 and `greatest`. -/
def unsigned (greatest : Nat) (expected : String) : Node → Except Error Nat
  | .number n => do
    match ← n.number with
    | .unsigned m => if m ≤ greatest then .ok m else .error (.outOfRange (.unsigned m) expected)
    | .signed m => .error (.outOfRange (.signed m) expected)
    | .float negative x => .error (.wrongKind (.number (.float negative x)) expected)
  | n => .error (n.refusal expected)

/-- The value as a text. -/
def quoted (expected : String) : Node → Except Error (List Char)
  | .text q => q.text
  | n => .error (n.refusal expected)

/-- The value as nothing or as `f` has it. -/
def optional (f : Node → Except Error α) : Node → Except Error (Option α)
  | .null => .ok none
  | n => (f n).map some

end Node

theorem reads_unsigned (greatest : Nat) (expected : String) :
    Reads (readUnsigned greatest expected) (Node.unsigned greatest expected) := by
  intro s n rest hr
  have hwrong := wrongKind_node expected n hr
  rw [readUnsigned, skipSpace_node]
  cases n with
  | number m =>
    have hinteger (k : Nat) : (if k ≤ greatest then .ok (k, rest) else
          .error (.outOfRange (.unsigned k) expected) : Except Error (Nat × List Char)) =
        (if k ≤ greatest then .ok k else
          .error (.outOfRange (.unsigned k) expected) : Except Error Nat).map (·, rest) := by
      split <;> rfl
    rw [Node.render]
    obtain ⟨cs, hchars, hnumber⟩ | ⟨c, cs, hchars, hc, hnumber⟩ := readNumber_chars m hr
    · simp only [hchars, if_true, hnumber, Node.unsigned]
      rcases m.number with e | k | _ | _
      · rfl
      · exact hinteger k
      · rfl
      · rfl
    · simp only [hchars, ne_of_isDigit (d := '-') hc rfl, hc, if_false, if_true, hnumber,
        Node.unsigned]
      rcases m.number with e | k | _ | _
      · rfl
      · exact hinteger k
      · rfl
      · rfl
  | text q => exact congrArg Except.error hwrong
  | bool b => cases b <;> rfl
  | null | list | object => rfl

theorem reads_quoted (expected : String) : Reads (readQuoted expected) (Node.quoted expected) := by
  intro s n rest hr
  have hwrong := wrongKind_node expected n hr
  rw [readQuoted, skipSpace_node]
  match n with
  | .text q =>
    simp only [Node.render, List.cons_append, List.append_assoc, List.nil_append]
    exact textFrom_chars q [] rest
  | .number m =>
    obtain ⟨c, cs, hc, hne⟩ := m.chars_eq_cons
    rw [Node.render, hc, List.cons_append] at hwrong ⊢
    split
    · contradiction
    · rename_i h
      exact (hne '"' rfl (by decide) (List.cons.inj h).1).elim
    · exact congrArg Except.error hwrong
  | .null => rfl
  | .bool true => rfl
  | .bool false => rfl
  | .list inside items => rfl
  | .object inside entries => rfl

/-- Only a null starts with its letter. -/
theorem Node.render_eq_cons_of_ne_null {n : Node} (h : n ≠ .null) :
    ∃ c cs, n.render = c :: cs ∧ c ≠ 'n' := by
  match n with
  | .null => exact absurd rfl h
  | .bool true => exact ⟨_, _, rfl, by decide⟩
  | .bool false => exact ⟨_, _, rfl, by decide⟩
  | .number m =>
    obtain ⟨c, cs, hc, hne⟩ := m.chars_eq_cons
    exact ⟨c, cs, hc, hne 'n' rfl (by decide)⟩
  | .text q => exact ⟨_, _, rfl, by decide⟩
  | .list inside items => exact ⟨_, _, rfl, by decide⟩
  | .object inside entries => exact ⟨_, _, rfl, by decide⟩

theorem reads_optional {read : Reader α} {f : Node → Except Error α} (h : Reads read f) :
    Reads (readOptional read) (Node.optional f) := by
  intro s n rest hr
  have hn := h .none n hr
  simp only [Space.none, List.nil_append] at hn
  rw [readOptional, skipSpace_node]
  by_cases hnull : n = .null
  · subst hnull
    rfl
  · obtain ⟨c, cs, hc, hne⟩ := Node.render_eq_cons_of_ne_null hnull
    have hoptional : Node.optional f n = (f n).map some := by
      cases n with
      | null => exact absurd rfl hnull
      | _ => rfl
    rw [hoptional]
    rw [hc, List.cons_append] at hn ⊢
    split
    · rename_i h
      exact absurd (List.cons.inj h).1 hne
    · rw [hn]
      cases f n <;> rfl

/-! ### Insignificant characters -/

namespace Node

theorem bareItems_eq (ps : List (Padded Node)) : bareItems ps = ps.map barePadded := by
  induction ps with
  | nil => rfl
  | cons p ps ih => rw [bareItems, ih, List.map_cons]

theorem bareEntries_eq (es : List (Entry Node)) : bareEntries es = es.map bareEntry := by
  induction es with
  | nil => rfl
  | cons e es ih => rw [bareEntries, ih, List.map_cons]

theorem unsigned_bare (greatest : Nat) (expected : String) (n : Node) :
    n.bare.unsigned greatest expected = n.unsigned greatest expected := by
  cases n <;> rfl

theorem quoted_bare (expected : String) (n : Node) :
    n.bare.quoted expected = n.quoted expected := by
  cases n <;> rfl

theorem optional_bare {f : Node → Except Error α} (hf : ∀ n : Node, f n.bare = f n) (n : Node) :
    n.bare.optional f = n.optional f := by
  cases n with
  | null => rfl
  | _ => exact congrArg (Except.map some) (hf _)

end Node

/-! ### Records -/

namespace Schema

variable {δ γ : Type}

/-- The member of the record that a member of an object is for. -/
def target (members : List (Member δ)) (e : Entry Node) : Except Error (Option (Member δ)) :=
  e.key.core.text.map fun key => members.find? fun m => m.name.toList == key

/-- A member of an object goes into the draft. -/
def enter (members : List (Member δ)) (draft : δ) (e : Entry Node) : Except Error δ := do
  match ← target members e with
  | some m =>
    if m.isSet draft then .error (.duplicate m.name) else e.value.core.readAs (m.read draft)
  | none => .ok draft

/-- The values of a list go into the draft one by one. -/
def enterValues : List (Member δ) → δ → List (Padded Node) → Except Error δ
  | [], draft, _ => .ok draft
  | _ :: _, draft, [] => .ok draft
  | m :: members, draft, p :: ps => do enterValues members (← p.core.readAs (m.read draft)) ps

/-- The record that a value is. -/
def ofNode (schema : Schema δ γ) : Node → Except Error γ
  | .object _ entries => do
    match schema.complete (← entries.foldlM (enter schema.members) schema.blank) with
    | .ok record => .ok record
    | .error (_, name) => .error (.missing name)
  | .list _ items => do
    match schema.complete (← enterValues schema.members schema.blank items) with
    | .ok record =>
      if items.length ≤ schema.members.length then .ok record else .error .trailingText
    | .error (place, _) => .error (.tooShort place schema.sizeText)
  | n => .error (n.refusal schema.title)

/-- Every member takes one value. -/
def ReadsMembers (members : List (Member δ)) : Prop :=
  ∀ m ∈ members, ∀ draft, ReadsValue (m.read draft)

theorem readColon_cons (s : Space) (cs : List Char) :
    readColon (s.chars ++ ':' :: cs) = .ok cs := by
  rw [readColon, skipSpace_cons (by decide)]
  rfl

theorem readMember_entry {members : List (Member δ)} (h : ReadsMembers members) (draft : δ)
    (e : Entry Node) {rest : List Char} (hr : EndsNumber rest) :
    readMember members draft (e.key.core.chars ++ '"' :: (e.key.after.chars ++ ':' ::
        (Node.renderPadded e.value ++ rest))) =
      (enter members draft e).map (·, e.value.after.chars ++ rest) := by
  obtain ⟨key, before, n, after⟩ := e
  simp only [readMember, readText, textFrom_chars, enter, target, Node.renderPadded,
    List.append_assoc]
  cases key.core.text with
  | error e => rfl
  | ok t =>
    simp only [Except.map, bind, Except.bind, List.reverse_nil, List.nil_append]
    cases hm : members.find? fun m => m.name.toList == t with
    | none =>
      simp only [readColon_cons, skip_node before n (.space after hr)]
      rfl
    | some m =>
      have hread := (h m (List.mem_of_find?_eq_some hm) draft).reads before n (.space after hr)
      simp only
      split
      · rfl
      · simp only [readColon_cons, hread]
        rfl

theorem readMembers_renderMoreEntries {members : List (Member δ)} (h : ReadsMembers members)
    (es : List (Entry Node)) (s : Space) {fuel : Nat} (hf : es.length < fuel) (draft : δ)
    (rest : List Char) :
    readMembers members fuel false draft (s.chars ++ (Node.renderMoreEntries es ++ rest)) =
      (es.foldlM (enter members) draft).map (·, rest) := by
  induction es generalizing s fuel draft with
  | nil =>
    obtain ⟨fuel, rfl⟩ := Nat.exists_eq_add_of_lt hf
    simp only [Node.renderMoreEntries, readMembers, List.cons_append, List.nil_append]
    rw [skipSpace_cons (by decide)]
    rfl
  | cons e es ih =>
    obtain ⟨fuel, rfl⟩ := Nat.exists_eq_succ_of_ne_zero (Nat.ne_zero_of_lt hf)
    have hmember := readMember_entry h draft e (endsNumber_renderMoreEntries es rest)
    obtain ⟨key, value⟩ := e
    simp only [Node.renderMoreEntries, Node.renderEntry, readMembers, List.cons_append,
      List.append_assoc]
    rw [skipSpace_cons (by decide)]
    simp only [Bool.false_eq_true, if_false]
    rw [skipSpace_cons (by decide)]
    simp only [hmember, List.foldlM_cons]
    cases enter members draft ⟨key, value⟩ with
    | error e => rfl
    | ok d => exact ih value.after (Nat.lt_of_succ_lt_succ hf) d

theorem readMembers_renderEntries {members : List (Member δ)} (h : ReadsMembers members)
    (es : List (Entry Node)) (s : Space) {fuel : Nat} (hf : es.length < fuel) (draft : δ)
    (rest : List Char) :
    readMembers members fuel true draft (s.chars ++ (Node.renderEntries es ++ rest)) =
      (es.foldlM (enter members) draft).map (·, rest) := by
  obtain ⟨fuel, rfl⟩ := Nat.exists_eq_succ_of_ne_zero (Nat.ne_zero_of_lt hf)
  cases es with
  | nil =>
    simp only [Node.renderEntries, readMembers, List.cons_append, List.nil_append]
    rw [skipSpace_cons (by decide)]
    rfl
  | cons e es =>
    have hmember := readMember_entry h draft e (endsNumber_renderMoreEntries es rest)
    obtain ⟨key, value⟩ := e
    simp only [Node.renderEntries, Node.renderEntry, readMembers, List.cons_append,
      List.append_assoc]
    rw [skipSpace_space, skipSpace_cons (by decide)]
    simp only [if_true, hmember, List.foldlM_cons]
    cases enter members draft ⟨key, value⟩ with
    | error e => rfl
    | ok d =>
      exact readMembers_renderMoreEntries h es value.after (Nat.lt_of_succ_lt_succ hf) d rest

/-- What stands behind the values that the members have taken. -/
theorem readListEnd_renderMoreItems (s : Space) (ps : List (Padded Node)) (rest : List Char) :
    readListEnd (s.chars ++ (Node.renderMoreItems ps ++ rest)) =
      if ps = [] then .ok rest else .error .trailingText := by
  cases ps with
  | nil =>
    rw [readListEnd, Node.renderMoreItems, List.cons_append, skipSpace_cons (by decide)]
    rfl
  | cons p ps =>
    obtain ⟨before, n, after⟩ := p
    obtain ⟨c, cs, hn, hc, hlist, -⟩ := n.render_eq_cons
    rw [readListEnd, Node.renderMoreItems, List.cons_append, skipSpace_cons (by decide)]
    simp only [Node.renderPadded, hn, List.append_assoc, List.cons_append]
    rw [skipSpace_cons hc]
    simp [hlist]

/-- One member reads its value, and the others read what comes behind it. -/
theorem bind_readValues {m : Member δ} {members : List (Member δ)}
    (hm : ∀ draft, ReadsValue (m.read draft)) {p : Padded Node} {ps : List (Padded Node)}
    {rest left : List Char} (hleft : ∀ draft,
      readValues members false draft (p.after.chars ++ (Node.renderMoreItems ps ++ rest)) =
        (enterValues members draft ps).map (·, left)) (draft : δ) :
    (do
      let (draft, rest) ← m.read draft
        (p.core.render ++ (p.after.chars ++ (Node.renderMoreItems ps ++ rest)))
      readValues members false draft rest) =
        (enterValues (m :: members) draft (p :: ps)).map (·, left) := by
  have hread := (hm draft).reads .none p.core
    (.space p.after (endsNumber_renderMoreItems ps rest))
  simp only [Space.none, List.nil_append] at hread
  rw [hread, enterValues]
  cases p.core.readAs (m.read draft) with
  | error e => rfl
  | ok d => exact hleft d

/-- The values of a list go into the draft until the members or the values are used up. -/
theorem readValues_renderMoreItems {members : List (Member δ)} (h : ReadsMembers members)
    (ps : List (Padded Node)) (s : Space) (rest : List Char) :
    ∃ left, (∀ draft,
        readValues members false draft (s.chars ++ (Node.renderMoreItems ps ++ rest)) =
          (enterValues members draft ps).map (·, left)) ∧
      readListEnd left =
        if ps.length ≤ members.length then .ok rest else .error .trailingText := by
  induction members generalizing ps s with
  | nil =>
    refine ⟨_, fun _ => rfl, (readListEnd_renderMoreItems s ps rest).trans ?_⟩
    simp
  | cons m members ih =>
    cases ps with
    | nil =>
      refine ⟨']' :: rest, fun draft => ?_, by rfl⟩
      rw [Node.renderMoreItems, readValues, List.cons_append, skipSpace_cons (by decide)]
      rfl
    | cons p ps =>
      obtain ⟨before, n, after⟩ := p
      obtain ⟨left, hleft, hend⟩ := ih (fun m hm => h m (List.mem_cons_of_mem _ hm)) ps after
      refine ⟨left, fun draft => ?_, by simpa using hend⟩
      have hrest := bind_readValues (h m List.mem_cons_self) (p := ⟨before, n, after⟩) hleft draft
      obtain ⟨c, cs, hn, hc, hlist, -⟩ := n.render_eq_cons
      simp only [Node.renderMoreItems, Node.renderPadded, readValues, List.cons_append,
        List.append_assoc]
      rw [skipSpace_cons (by decide)]
      dsimp only
      rw [if_neg (by decide), if_neg (by decide), if_pos rfl, skipSpace_node, ← hrest]
      dsimp only
      rw [hn, List.cons_append]
      split
      · contradiction
      · rename_i hbracket
        exact absurd (List.cons.inj hbracket).1 hlist
      · rfl

theorem readValues_renderItems {members : List (Member δ)} (h : ReadsMembers members)
    (ps : List (Padded Node)) (s : Space) (rest : List Char) :
    ∃ left, (∀ draft,
        readValues members true draft (s.chars ++ (Node.renderItems ps ++ rest)) =
          (enterValues members draft ps).map (·, left)) ∧
      readListEnd left =
        if ps.length ≤ members.length then .ok rest else .error .trailingText := by
  cases members with
  | nil =>
    refine ⟨_, fun _ => rfl, ?_⟩
    cases ps with
    | nil =>
      rw [readListEnd, Node.renderItems, List.cons_append, skipSpace_cons (by decide)]
      rfl
    | cons p ps =>
      obtain ⟨before, n, after⟩ := p
      obtain ⟨c, cs, hn, hc, hlist, hcomma⟩ := n.render_eq_cons
      rw [readListEnd]
      simp only [Node.renderItems, Node.renderPadded, List.append_assoc]
      rw [skipSpace_space, skipSpace_node, hn, List.cons_append]
      simp [hlist, hcomma]
  | cons m members =>
    cases ps with
    | nil =>
      refine ⟨']' :: rest, fun draft => ?_, by rfl⟩
      rw [Node.renderItems, readValues, List.cons_append, skipSpace_cons (by decide)]
      rfl
    | cons p ps =>
      obtain ⟨before, n, after⟩ := p
      obtain ⟨left, hleft, hend⟩ :=
        readValues_renderMoreItems (fun m hm => h m (List.mem_cons_of_mem _ hm)) ps after rest
      refine ⟨left, fun draft => ?_, by simpa using hend⟩
      have hrest := bind_readValues (h m List.mem_cons_self) (p := ⟨before, n, after⟩) hleft draft
      obtain ⟨c, cs, hn, hc, hlist, -⟩ := n.render_eq_cons
      simp only [Node.renderItems, Node.renderPadded, readValues, List.append_assoc]
      rw [skipSpace_space, skipSpace_node, ← hrest]
      dsimp only
      rw [hn, List.cons_append]
      simp only [hlist, if_false, if_true]

theorem length_le_renderMoreEntries (es : List (Entry Node)) :
    es.length ≤ (Node.renderMoreEntries es).length := by
  induction es with
  | nil => simp
  | cons e es ih =>
    simp only [Node.renderMoreEntries, List.length_cons, List.length_append]
    omega

theorem length_le_renderEntries (es : List (Entry Node)) :
    es.length ≤ (Node.renderEntries es).length := by
  cases es with
  | nil => simp
  | cons e es =>
    have := length_le_renderMoreEntries es
    obtain ⟨key, value⟩ := e
    simp only [Node.renderEntries, Node.renderEntry, List.length_cons, List.length_append]
    omega

/-- A record is read as the node says, if its members are. -/
theorem reads_ofNode (schema : Schema δ γ) (h : ReadsMembers schema.members) :
    Reads schema.read schema.ofNode := by
  intro s n rest hr
  have hwrong := wrongKind_node schema.title n hr
  rw [read, skipSpace_node]
  match n with
  | .object inside entries =>
    simp only [Node.render, List.cons_append, List.append_assoc, ofNode]
    rw [readMembers_renderEntries h entries inside
      (by have := length_le_renderEntries entries; simp only [List.length_append]; omega)]
    cases entries.foldlM (enter schema.members) schema.blank with
    | error e => rfl
    | ok d =>
      simp only [Except.map, bind, Except.bind]
      cases schema.complete d <;> rfl
  | .list inside items =>
    obtain ⟨left, hleft, hend⟩ := readValues_renderItems h items inside rest
    simp only [Node.render, List.cons_append, List.append_assoc, ofNode, hleft]
    cases enterValues schema.members schema.blank items with
    | error e => rfl
    | ok d =>
      simp only [Except.map, bind, Except.bind]
      cases schema.complete d with
      | error e => rfl
      | ok r =>
        simp only [hend]
        by_cases hlength : items.length ≤ schema.members.length
        · rw [if_pos hlength, if_pos hlength]
          rfl
        · rw [if_neg hlength, if_neg hlength]
  | .number m =>
    obtain ⟨c, cs, hc, hne⟩ := m.chars_eq_cons
    rw [Node.render, hc, List.cons_append] at hwrong ⊢
    split
    · contradiction
    · rename_i h
      exact (hne '{' rfl (by decide) (List.cons.inj h).1).elim
    · rename_i h
      exact (hne '[' rfl (by decide) (List.cons.inj h).1).elim
    · exact congrArg Except.error hwrong
  | .null => rfl
  | .bool true => rfl
  | .bool false => rfl
  | .text q => exact congrArg Except.error hwrong

/-- A whole text is decoded as its value says. -/
theorem decode_render (schema : Schema δ γ) (h : ReadsMembers schema.members) (d : Document) :
    schema.decode d.render = schema.ofNode d.core := by
  obtain ⟨before, n, after⟩ := d
  have hspace : skipSpace after.chars = [] := by
    rw [← List.append_nil after.chars, skipSpace_space]
    rfl
  have hend : EndsNumber after.chars := by simpa using EndsNumber.nil.space after
  rw [decode, Document.render, Node.renderPadded, reads_ofNode schema h before n hend]
  cases schema.ofNode n with
  | error e => rfl
  | ok r => simp [Except.map, bind, Except.bind, hspace, pure, Except.pure]

theorem enter_bare {members : List (Member δ)} (h : ReadsMembers members) (draft : δ)
    (e : Entry Node) : enter members draft (Node.bareEntry e) = enter members draft e := by
  obtain ⟨⟨before, key, after⟩, before', n, after'⟩ := e
  simp only [enter, target, Node.bareEntry, Node.barePadded]
  cases key.text with
  | error e => rfl
  | ok t =>
    simp only [Except.map, bind, Except.bind]
    cases hm : members.find? fun m => m.name.toList == t with
    | none => rfl
    | some m => simp only [(h m (List.mem_of_find?_eq_some hm) draft).readAs_bare]

theorem enterValues_bare {members : List (Member δ)} (h : ReadsMembers members) (draft : δ)
    (ps : List (Padded Node)) :
    enterValues members draft (ps.map Node.barePadded) = enterValues members draft ps := by
  induction members generalizing draft ps with
  | nil => rfl
  | cons m members ih =>
    cases ps with
    | nil => rfl
    | cons p ps =>
      obtain ⟨before, n, after⟩ := p
      rw [List.map_cons, enterValues, enterValues, Node.barePadded,
        (h m (List.mem_cons_self ..) draft).readAs_bare n]
      exact bind_congr fun d => ih (fun m hm => h m (List.mem_cons_of_mem _ hm)) d ps

theorem ofNode_bare (schema : Schema δ γ) (h : ReadsMembers schema.members) (n : Node) :
    schema.ofNode n.bare = schema.ofNode n := by
  cases n with
  | object inside entries =>
    have hentries : (Node.bareEntries entries).foldlM (enter schema.members) schema.blank =
        entries.foldlM (enter schema.members) schema.blank := by
      rw [Node.bareEntries_eq, List.foldlM_map]
      simp only [enter_bare h]
    rw [Node.bare, ofNode, ofNode, hentries]
  | list inside items =>
    rw [Node.bare, ofNode, ofNode, Node.bareItems_eq, enterValues_bare h, List.length_map]
  | _ => rfl

/-- A record is read like any other value, so that records can be members of records. -/
theorem readsValue (schema : Schema δ γ) (h : ReadsMembers schema.members) :
    ReadsValue schema.read :=
  (reads_ofNode schema h).readsValue (ofNode_bare schema h)

end Schema

/-! ## The readers of a configuration's values -/

open Net

theorem reads_string :
    Reads readString fun n => n.quoted "a string" >>= fun t => .ok (String.ofList t) :=
  (reads_quoted _).bind fun _ _ => rfl

theorem reads_uint8 : Reads readUInt8 fun n => n.unsigned 0xFF "u8" >>= fun k => .ok k.toUInt8 :=
  (reads_unsigned _ _).bind fun _ _ => rfl

theorem reads_uint16 :
    Reads readUInt16 fun n => n.unsigned 0xFFFF "u16" >>= fun k => .ok k.toUInt16 :=
  (reads_unsigned _ _).bind fun _ _ => rfl

theorem reads_uint32 :
    Reads readUInt32 fun n => n.unsigned 0xFFFFFFFF "u32" >>= fun k => .ok k.toUInt32 :=
  (reads_unsigned _ _).bind fun _ _ => rfl

theorem reads_uint64 :
    Reads readUInt64 fun n => n.unsigned greatestInteger "u64" >>= fun k => .ok k.toUInt64 :=
  (reads_unsigned _ _).bind fun _ _ => rfl

/-- What a text is taken for, or the refusal that it is none. -/
def addressOr (kind : String) (a? : Option α) : Except Error α :=
  match a? with
  | some a => .ok a
  | none => .error (.notAnAddress kind)

theorem reads_ipv4 :
    Reads readIpv4 fun n => n.quoted "IPv4 address" >>= fun t => addressOr "IPv4" (Ipv4.parse? t) :=
  (reads_quoted _).bind fun t rest => by
    dsimp only
    cases Ipv4.parse? t <;> rfl

theorem reads_address :
    Reads readAddress fun n =>
      n.quoted "IP address" >>= fun t => addressOr "IP" (Address.parse? t) :=
  (reads_quoted _).bind fun t rest => by
    dsimp only
    cases Address.parse? t <;> rfl

@[simp]
theorem readsValue_string : ReadsValue readString :=
  reads_string.readsValue fun n => by rw [n.quoted_bare]

@[simp]
theorem readsValue_uint8 : ReadsValue readUInt8 :=
  reads_uint8.readsValue fun n => by rw [n.unsigned_bare]

@[simp]
theorem readsValue_uint16 : ReadsValue readUInt16 :=
  reads_uint16.readsValue fun n => by rw [n.unsigned_bare]

@[simp]
theorem readsValue_uint32 : ReadsValue readUInt32 :=
  reads_uint32.readsValue fun n => by rw [n.unsigned_bare]

@[simp]
theorem readsValue_uint64 : ReadsValue readUInt64 :=
  reads_uint64.readsValue fun n => by rw [n.unsigned_bare]

@[simp]
theorem readsValue_ipv4 : ReadsValue readIpv4 :=
  reads_ipv4.readsValue fun n => by rw [n.quoted_bare]

@[simp]
theorem readsValue_address : ReadsValue readAddress :=
  reads_address.readsValue fun n => by rw [n.quoted_bare]

@[simp]
theorem ReadsValue.optional {read : Reader α} (h : ReadsValue read) :
    ReadsValue (readOptional read) :=
  (reads_optional h.reads).readsValue (Node.optional_bare h.readAs_bare)

end TunnelRelay.Json
