import TunnelRelay.Proofs.Documents
/-!
# Passing over what is written

`skip_node`: the machine that passes over a value stops right behind it, for every value of any
depth. The induction follows the value, and goes through its members with `resume`, which says
where the machine goes on behind a value inside the brackets that are open.
-/

namespace TunnelRelay.Json

/-- Goes on behind a value that stands inside the brackets. -/
def resume (brackets : List Bracket) (rest : List Char) : Except Error (List Char) :=
  if brackets.isEmpty then .ok rest else skipFrom .after brackets rest

variable {mode m : Mode} {brackets t : List Bracket} {c : Char}

theorem skipFrom_go (h : step mode brackets c = .ok (.go m t)) (cs : List Char) :
    skipFrom mode brackets (c :: cs) = skipFrom m t cs := by
  simp [skipFrom, h]

theorem skipFrom_end (h : step mode brackets c = .ok (endValue t)) (cs : List Char) :
    skipFrom mode brackets (c :: cs) = resume t cs := by
  cases t <;> simp [skipFrom, h, endValue, resume]

/-- A mode in which insignificant characters may stand. -/
theorem skipFrom_space (h : ∀ c, isSpace c = true → step mode brackets c = .ok (.go mode brackets))
    (s : Space) (cs : List Char) :
    skipFrom mode brackets (s.chars ++ cs) = skipFrom mode brackets cs := by
  obtain ⟨chars, hs⟩ := s
  induction chars with
  | nil => rfl
  | cons c chars ih =>
    rw [List.cons_append, skipFrom_go (h c (hs c (List.mem_cons_self ..)))]
    exact ih fun d hd => hs d (List.mem_cons_of_mem _ hd)

theorem skipFrom_value_space (s : Space) (cs : List Char) :
    skipFrom .value brackets (s.chars ++ cs) = skipFrom .value brackets cs :=
  skipFrom_space (fun c hc => by simp [step, startValue, hc]) s cs

theorem skipFrom_key_space (s : Space) (cs : List Char) :
    skipFrom .key brackets (s.chars ++ cs) = skipFrom .key brackets cs :=
  skipFrom_space (fun c hc => by simp [step, startKey, hc]) s cs

theorem skipFrom_colon_space (s : Space) (cs : List Char) :
    skipFrom .colon brackets (s.chars ++ cs) = skipFrom .colon brackets cs :=
  skipFrom_space (fun c hc => by simp [step, hc]) s cs

theorem skipFrom_opened_space (b : Bracket) (s : Space) (cs : List Char) :
    skipFrom .opened (b :: brackets) (s.chars ++ cs) = skipFrom .opened (b :: brackets) cs :=
  skipFrom_space (fun c hc => by simp [step, afterOpening, hc]) s cs

theorem resume_space (b : Bracket) (s : Space) (cs : List Char) :
    resume (b :: brackets) (s.chars ++ cs) = resume (b :: brackets) cs :=
  skipFrom_space (fun c hc => by simp [step, afterValue, hc]) s cs

/-! ### Texts -/

theorem skipFrom_unit (isKey : Bool) (a b c d : HexDigit) (cs : List Char) :
    skipFrom (.text isKey) brackets ('\\' :: 'u' :: a.char :: b.char :: c.char :: d.char :: cs) =
      skipFrom (.text isKey) brackets cs := by
  simp [skipFrom, step, HexDigit.utf8Size, HexDigit.isValue]

/-- A text is passed over to its closing quote, whatever its escapes mean. -/
theorem skipFrom_chars (isKey : Bool) (q : Quoted) (cs : List Char) :
    skipFrom (.text isKey) brackets (q.chars ++ '"' :: cs) =
      if isKey then skipFrom .colon brackets cs else resume brackets cs := by
  induction q with
  | nil =>
    cases isKey
    · exact skipFrom_end (by simp [step, endText]) cs
    · exact skipFrom_go (by simp [step, endText]) cs
  | cons p q ih =>
    rw [← ih]
    cases p with
    | plain c h =>
      refine skipFrom_go ?_ _
      simp only [step]
      rw [if_neg h.1, if_neg h.2.1, if_neg (by omega)]
    | short letter c h =>
      refine (skipFrom_go (m := .escape isKey) (t := brackets) (by simp [step]) _).trans
        (skipFrom_go ?_ _)
      simp [step, ne_u_of_shortEscape? h, h]
    | unit a b c d => exact skipFrom_unit isKey a b c d _

/-! ### Numbers -/

/-- A mode in the digits of a number. -/
def Mode.InDigits (m : Mode) : Prop := m = .integer ∨ m = .fraction ∨ m = .exponent

theorem skipFrom_digits (hm : mode.InDigits) {ds : List Char}
    (hd : ∀ c ∈ ds, c.isDigit = true) (cs : List Char) :
    skipFrom mode brackets (ds ++ cs) = skipFrom mode brackets cs := by
  induction ds with
  | nil => rfl
  | cons c ds ih =>
    have hc := hd c (List.mem_cons_self ..)
    rw [List.cons_append, skipFrom_go (m := mode) (t := brackets)]
    · exact ih fun d h => hd d (List.mem_cons_of_mem _ h)
    · rcases hm with rfl | rfl | rfl <;> simp [step, hc]

/-- Behind the digits of a number the value has ended if the next character is one behind a
value. -/
theorem skipFrom_eq_resume (hm : mode = .zero ∨ mode.InDigits) {rest : List Char}
    (hstep : ∀ c ∈ rest.head?, step mode brackets c = afterValue brackets c) :
    skipFrom mode brackets rest = resume brackets rest := by
  cases rest with
  | nil =>
    rcases hm with rfl | rfl | rfl | rfl <;> cases brackets <;>
      simp [skipFrom, resume, atEnd, endAfterValue]
  | cons c rest =>
    have hc := hstep c rfl
    cases brackets with
    | nil => simp [skipFrom, hc, afterValue, resume]
    | cons b brackets =>
      change skipFrom mode _ _ = skipFrom .after _ _
      rw [skipFrom, skipFrom, hc]
      rfl

/-- A number ends where nothing goes on with it. -/
theorem skipFrom_endsNumber (hm : mode = .zero ∨ mode.InDigits) {rest : List Char}
    (hr : EndsNumber rest) : skipFrom mode brackets rest = resume brackets rest := by
  refine skipFrom_eq_resume hm fun c hc => ?_
  obtain ⟨hd, hp, he, hE⟩ := hr c hc
  rcases hm with rfl | rfl | rfl | rfl <;> simp [step, afterDigits, hd, hp, he, hE]

/-- Digits, the first of which leads into them. -/
theorem skipFrom_leading (hm' : m.InDigits)
    (h : ∀ c, c.isDigit = true → step mode brackets c = .ok (.go m brackets)) (d : Digits)
    (cs : List Char) :
    skipFrom mode brackets (d.chars ++ cs) = skipFrom m brackets cs := by
  obtain ⟨c, ds, hc, hcd⟩ := d.eq_cons
  have hds : ∀ c ∈ ds, c.isDigit = true := fun c h =>
    d.isDigit c (by rw [hc]; exact List.mem_cons_of_mem _ h)
  rw [hc, List.cons_append, skipFrom_go (h c hcd), skipFrom_digits hm' hds]

/-- The sign and the digits of an exponent. -/
theorem skipFrom_exponentDigits (e : Exponent) {rest : List Char} (hr : EndsNumber rest) :
    skipFrom .exponentLetter brackets (e.signChars ++ (e.digits.chars ++ rest)) =
      resume brackets rest := by
  obtain ⟨capital, sign, d⟩ := e
  have hexp : Mode.exponent.InDigits := .inr (.inr rfl)
  have hend : skipFrom .exponent brackets rest = resume brackets rest :=
    skipFrom_endsNumber (.inr hexp) hr
  have hsigned : skipFrom .exponentSign brackets (d.chars ++ rest) = resume brackets rest :=
    (skipFrom_leading hexp (fun c hc => by simp [step, hc]) d rest).trans hend
  match sign with
  | none =>
    refine (skipFrom_leading hexp (fun c hc => ?_) d rest).trans hend
    have hp : c ≠ '+' := by rintro rfl; simp at hc
    have hm : c ≠ '-' := by rintro rfl; simp at hc
    simp [step, hc, hp, hm]
  | some false => exact (skipFrom_go (by simp [step]) _).trans hsigned
  | some true => exact (skipFrom_go (by simp [step]) _).trans hsigned

/-- The point behind the digits before it. -/
theorem step_point (hm : mode = .zero ∨ mode = .integer) :
    step mode brackets '.' = .ok (.go .point brackets) := by
  rcases hm with rfl | rfl <;> simp [step, afterDigits]

/-- The letter of an exponent. -/
theorem step_exponentLetter (hm : mode = .zero ∨ mode = .integer ∨ mode = .fraction)
    (hc : c = 'e' ∨ c = 'E') : step mode brackets c = .ok (.go .exponentLetter brackets) := by
  rcases hc with rfl | rfl <;> rcases hm with rfl | rfl | rfl <;> simp [step, afterDigits]

theorem skipFrom_exponent (hm : mode = .zero ∨ mode = .integer ∨ mode = .fraction) (e : Exponent)
    {rest : List Char} (hr : EndsNumber rest) :
    skipFrom mode brackets (e.chars ++ rest) = resume brackets rest := by
  rw [Exponent.chars, List.cons_append, List.append_assoc]
  refine (skipFrom_go (step_exponentLetter hm ?_) _).trans (skipFrom_exponentDigits e hr)
  cases e.isCapital <;> simp

/-- What may stand behind the digits before the point. -/
theorem skipFrom_tail (hm : mode = .zero ∨ mode = .integer) (n : Numeral) {rest : List Char}
    (hr : EndsNumber rest) : skipFrom mode brackets (n.tail ++ rest) = resume brackets rest := by
  cases hf : n.fraction with
  | none =>
    cases he : n.exponent with
    | none =>
      simp only [Numeral.tail, hf, he, Option.elim_none, List.nil_append]
      exact skipFrom_endsNumber (hm.imp id .inl) hr
    | some e =>
      simp only [Numeral.tail, hf, he, Option.elim_none, Option.elim_some, List.nil_append]
      exact skipFrom_exponent (hm.imp id .inl) e hr
  | some d =>
    have hfraction : ∀ cs, skipFrom .point brackets (d.chars ++ cs) =
        skipFrom .fraction brackets cs :=
      skipFrom_leading (.inr (.inl rfl)) (fun c hc => by simp [step, hc]) d
    cases he : n.exponent with
    | none =>
      simp only [Numeral.tail, hf, he, Option.elim_none, Option.elim_some, List.append_nil,
        List.cons_append]
      rw [skipFrom_go (step_point hm), hfraction]
      exact skipFrom_endsNumber (.inr (.inr (.inl rfl))) hr
    | some e =>
      simp only [Numeral.tail, hf, he, Option.elim_some, List.cons_append, List.append_assoc]
      rw [skipFrom_go (step_point hm), hfraction]
      exact skipFrom_exponent (.inr (.inr rfl)) e hr

/-- A number behind its sign. -/
theorem skipFrom_magnitude (n : Numeral) {rest : List Char} (hr : EndsNumber rest)
    (hzero : step mode brackets '0' = .ok (.go .zero brackets))
    (hdigit : ∀ c, c.isDigit = true → c ≠ '0' →
      step mode brackets c = .ok (.go .integer brackets)) :
    skipFrom mode brackets (n.magnitude ++ rest) = resume brackets rest := by
  obtain ⟨c, ds, hc, hcd⟩ := n.whole.eq_cons
  rw [Numeral.magnitude, List.append_assoc, hc, List.cons_append]
  by_cases h : c = '0'
  · have hds := n.eq_zero (by rw [hc, h]; rfl)
    rw [hc, h, List.cons.injEq] at hds
    rw [h, hds.2, skipFrom_go hzero]
    exact skipFrom_tail (.inl rfl) n hr
  · have hds : ∀ c ∈ ds, c.isDigit = true := fun c h =>
      n.whole.isDigit c (by rw [hc]; exact List.mem_cons_of_mem _ h)
    rw [skipFrom_go (hdigit c hcd h), skipFrom_digits (.inl rfl) hds]
    exact skipFrom_tail (.inr rfl) n hr

/-- A character that neither is insignificant nor goes on in a list nor closes it. -/
def StartsValue (c : Char) : Prop := isSpace c = false ∧ c ≠ ']' ∧ c ≠ ','

instance : DecidablePred StartsValue := fun _ => inferInstanceAs (Decidable (_ ∧ _))

theorem ne_of_isDigit {d : Char} (hc : c.isDigit = true) (hd : d.isDigit = false) : c ≠ d := by
  rintro rfl
  simp [hc] at hd

theorem startsValue_of_isDigit (hc : c.isDigit = true) : StartsValue c := by
  have hne : ∀ d : Char, d.isDigit = false → c ≠ d := fun d => ne_of_isDigit hc
  refine ⟨?_, hne _ rfl, hne _ rfl⟩
  simp [isSpace, hne ' ' rfl, hne '\n' rfl, hne '\t' rfl, hne '\r' rfl]

theorem startValue_digit (hc : c.isDigit = true) :
    startValue brackets c = .ok (.go (if c = '0' then .zero else .integer) brackets) := by
  have hne : ∀ d : Char, d.isDigit = false → c ≠ d := fun d => ne_of_isDigit hc
  rw [startValue, if_neg (by simp [(startsValue_of_isDigit hc).1]), if_neg (hne _ rfl),
    if_neg (hne _ rfl), if_neg (hne _ rfl), if_neg (hne _ rfl)]
  split <;> rfl

theorem skipFrom_number (n : Numeral) {rest : List Char} (hr : EndsNumber rest) :
    skipFrom .value brackets (n.chars ++ rest) = resume brackets rest := by
  unfold Numeral.chars
  split
  · refine (skipFrom_go (m := .sign) (t := brackets) ?_ _).trans
      (skipFrom_magnitude n hr ?_ ?_)
    · simp [step, startValue, isSpace]
    · simp [step]
    · intro c hc h; simp [step, hc, h]
  · refine skipFrom_magnitude n hr (startValue_digit (by decide)) fun c hc h => ?_
    simp [step, startValue_digit hc, h]

/-! ### Values -/

theorem EndsNumber.cons {c : Char} (hc : isSpace c = true ∨ c = ',' ∨ c = ']' ∨ c = '}')
    (cs : List Char) : EndsNumber (c :: cs) := by
  rintro d ⟨⟩
  rcases hc with hc | rfl | rfl | rfl
  · simp only [isSpace, Bool.or_eq_true, beq_iff_eq] at hc
    rcases hc with ((rfl | rfl) | rfl) | rfl <;> decide
  all_goals decide

theorem EndsNumber.nil : EndsNumber [] := by simp [EndsNumber]

theorem EndsNumber.space (s : Space) {cs : List Char} (h : EndsNumber cs) :
    EndsNumber (s.chars ++ cs) := by
  obtain ⟨_ | ⟨c, chars⟩, hs⟩ := s
  · exact h
  · exact .cons (.inl (hs c (List.mem_cons_self ..))) _

theorem endsNumber_renderMoreItems (ps : List (Padded Node)) (rest : List Char) :
    EndsNumber (Node.renderMoreItems ps ++ rest) := by
  cases ps with
  | nil => exact .cons (by decide) _
  | cons p ps => exact .cons (by decide) _

theorem endsNumber_renderMoreEntries (es : List (Entry Node)) (rest : List Char) :
    EndsNumber (Node.renderMoreEntries es ++ rest) := by
  cases es with
  | nil => exact .cons (by decide) _
  | cons e es => exact .cons (by decide) _

theorem Node.render_eq_cons (n : Node) : ∃ c cs, n.render = c :: cs ∧ StartsValue c := by
  cases n with
  | null => exact ⟨_, _, rfl, by decide⟩
  | bool b => cases b <;> exact ⟨_, _, rfl, by decide⟩
  | number n =>
    obtain ⟨c, cs, hc, hcd⟩ := n.whole.eq_cons
    rw [Node.render, Numeral.chars]
    split
    · exact ⟨_, _, rfl, by decide⟩
    · exact ⟨c, cs ++ n.tail, by rw [Numeral.magnitude, hc]; rfl, startsValue_of_isDigit hcd⟩
  | text q => exact ⟨_, _, rfl, by decide⟩
  | list inside items => exact ⟨_, _, rfl, by decide⟩
  | object inside entries => exact ⟨_, _, rfl, by decide⟩

/-- The first value of a list is passed over like any other. -/
theorem skipFrom_opened_padded (p : Padded Node) (cs : List Char) :
    skipFrom .opened (.list :: brackets) (Node.renderPadded p ++ cs) =
      skipFrom .value (.list :: brackets) (Node.renderPadded p ++ cs) := by
  obtain ⟨before, n, after⟩ := p
  obtain ⟨c, ds, hn, hc⟩ := n.render_eq_cons
  simp only [Node.renderPadded, List.append_assoc]
  rw [skipFrom_opened_space, skipFrom_value_space, hn, List.cons_append, skipFrom, skipFrom]
  simp [step, afterOpening, hc.1, Bracket.closing, hc.2.1]

/-- The first member of an object is passed over like any other. -/
theorem skipFrom_opened_entry (e : Entry Node) (cs : List Char) :
    skipFrom .opened (.object :: brackets) (Node.renderEntry e ++ cs) =
      skipFrom .key (.object :: brackets) (Node.renderEntry e ++ cs) := by
  obtain ⟨key, value⟩ := e
  simp only [Node.renderEntry, List.append_assoc]
  rw [skipFrom_opened_space, skipFrom_key_space, List.cons_append, skipFrom, skipFrom]
  rfl

theorem skipFrom_literal (c : Char) (cs : List Char)
    (h : ∀ brackets, step .value brackets c = .ok (.go (.literal cs) brackets)) (hne : cs ≠ [])
    (rest : List Char) : skipFrom .value brackets (c :: cs ++ rest) = resume brackets rest := by
  rw [List.cons_append, skipFrom_go (h brackets)]
  clear h
  induction cs with
  | nil => exact absurd rfl hne
  | cons d cs ih =>
    cases cs with
    | nil => exact skipFrom_end (by simp [step]) rest
    | cons e cs =>
      rw [List.cons_append, skipFrom_go (m := .literal (e :: cs)) (t := brackets)
        (by simp [step])]
      exact ih (by simp)

mutual

/-- A value is passed over to its end, inside any brackets. -/
theorem skipFrom_node (n : Node) (brackets : List Bracket) {rest : List Char}
    (hr : EndsNumber rest) :
    skipFrom .value brackets (n.render ++ rest) = resume brackets rest := by
  match n with
  | .null => exact skipFrom_literal 'n' ['u', 'l', 'l'] (fun _ => by rfl) (by simp) rest
  | .bool true => exact skipFrom_literal 't' ['r', 'u', 'e'] (fun _ => by rfl) (by simp) rest
  | .bool false => exact skipFrom_literal 'f' ['a', 'l', 's', 'e'] (fun _ => by rfl) (by simp) rest
  | .number n => exact skipFrom_number n hr
  | .text q =>
    simp only [Node.render, List.cons_append, List.append_assoc, List.nil_append]
    exact (skipFrom_go rfl _).trans (skipFrom_chars false q rest)
  | .list inside items =>
    simp only [Node.render, List.cons_append, List.append_assoc]
    rw [skipFrom_go (m := .opened) (t := .list :: brackets) rfl, skipFrom_opened_space]
    exact skipFrom_items items brackets hr
  | .object inside entries =>
    simp only [Node.render, List.cons_append, List.append_assoc]
    rw [skipFrom_go (m := .opened) (t := .object :: brackets) rfl,
      skipFrom_opened_space]
    exact skipFrom_entries entries brackets hr

theorem skipFrom_padded (p : Padded Node) (b : Bracket) (brackets : List Bracket)
    {rest : List Char} (hr : EndsNumber rest) :
    skipFrom .value (b :: brackets) (Node.renderPadded p ++ rest) =
      resume (b :: brackets) rest := by
  match p with
  | ⟨before, n, after⟩ =>
    simp only [Node.renderPadded, List.append_assoc]
    rw [skipFrom_value_space, skipFrom_node n _ (.space after hr), resume_space]

theorem skipFrom_entry (e : Entry Node) (brackets : List Bracket) {rest : List Char}
    (hr : EndsNumber rest) :
    skipFrom .key (.object :: brackets) (Node.renderEntry e ++ rest) =
      resume (.object :: brackets) rest := by
  match e with
  | ⟨key, value⟩ =>
    simp only [Node.renderEntry, List.append_assoc, List.cons_append]
    rw [skipFrom_key_space, skipFrom_go (m := .text true) rfl, skipFrom_chars true,
      if_pos rfl, skipFrom_colon_space, skipFrom_go (m := .value) rfl]
    exact skipFrom_padded value _ brackets hr

theorem skipFrom_items (ps : List (Padded Node)) (brackets : List Bracket) {rest : List Char}
    (hr : EndsNumber rest) :
    skipFrom .opened (.list :: brackets) (Node.renderItems ps ++ rest) = resume brackets rest := by
  match ps with
  | [] => exact skipFrom_end rfl rest
  | p :: ps =>
    rw [Node.renderItems, List.append_assoc, skipFrom_opened_padded,
      skipFrom_padded p _ brackets (endsNumber_renderMoreItems ps rest)]
    exact skipFrom_moreItems ps brackets hr

theorem skipFrom_moreItems (ps : List (Padded Node)) (brackets : List Bracket) {rest : List Char}
    (hr : EndsNumber rest) :
    resume (.list :: brackets) (Node.renderMoreItems ps ++ rest) = resume brackets rest := by
  match ps with
  | [] => exact skipFrom_end rfl rest
  | p :: ps =>
    rw [Node.renderMoreItems, List.cons_append, List.append_assoc]
    change skipFrom .after (.list :: brackets) (',' :: _) = _
    rw [skipFrom_go (m := .value) (t := .list :: brackets) rfl,
      skipFrom_padded p _ brackets (endsNumber_renderMoreItems ps rest)]
    exact skipFrom_moreItems ps brackets hr

theorem skipFrom_entries (es : List (Entry Node)) (brackets : List Bracket) {rest : List Char}
    (hr : EndsNumber rest) :
    skipFrom .opened (.object :: brackets) (Node.renderEntries es ++ rest) =
      resume brackets rest := by
  match es with
  | [] => exact skipFrom_end rfl rest
  | e :: es =>
    rw [Node.renderEntries, List.append_assoc, skipFrom_opened_entry,
      skipFrom_entry e brackets (endsNumber_renderMoreEntries es rest)]
    exact skipFrom_moreEntries es brackets hr

theorem skipFrom_moreEntries (es : List (Entry Node)) (brackets : List Bracket)
    {rest : List Char} (hr : EndsNumber rest) :
    resume (.object :: brackets) (Node.renderMoreEntries es ++ rest) = resume brackets rest := by
  match es with
  | [] => exact skipFrom_end rfl rest
  | e :: es =>
    rw [Node.renderMoreEntries, List.cons_append, List.append_assoc]
    change skipFrom .after (.object :: brackets) (',' :: _) = _
    rw [skipFrom_go (m := .key) (t := .object :: brackets) rfl,
      skipFrom_entry e brackets (endsNumber_renderMoreEntries es rest)]
    exact skipFrom_moreEntries es brackets hr

end

/-- Passing over a value leaves what stands behind it. -/
theorem skip_node (s : Space) (n : Node) {rest : List Char} (hr : EndsNumber rest) :
    skip (s.chars ++ (n.render ++ rest)) = .ok rest :=
  (skipFrom_value_space s _).trans (skipFrom_node n [] hr)

end TunnelRelay.Json
