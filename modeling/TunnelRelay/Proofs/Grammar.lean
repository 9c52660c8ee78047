import Mathlib.Data.List.DropRight
import TunnelRelay.Proofs.Members
/-!
# Nothing else is read

The converse of reading what is written: what a reader takes from the front of a text is a value as
it is written, and so a text that holds a record is the text of some `Document`
(`Schema.exists_document`).
-/

namespace TunnelRelay.Json

/-- The insignificant characters in front. -/
theorem exists_space (cs : List Char) : ∃ s : Space, cs = s.chars ++ skipSpace cs :=
  ⟨⟨cs.takeWhile isSpace, List.all_eq_true.1 List.all_takeWhile⟩,
    List.takeWhile_append_dropWhile.symm⟩

theorem isSpace_of_skipSpace {c : Char} {cs cs' : List Char} (h : skipSpace cs = c :: cs') :
    isSpace c = false := by
  have hhead := List.head?_dropWhile_not isSpace cs
  rw [← skipSpace, h] at hhead
  simpa using hhead

theorem readLiteral_eq_ok {es cs rest : List Char} (h : readLiteral es cs = .ok rest) :
    cs = es ++ rest := by
  induction es generalizing cs with
  | nil => cases h; rfl
  | cons e es ih =>
    cases cs with
    | nil => cases h
    | cons c cs =>
      rw [readLiteral] at h
      split at h
      · rename_i he
        rw [he, ih h, List.cons_append]
      · cases h

/-! ## Texts -/

/-- An escape with a character that is no digit is refused in the end. -/
theorem textFrom_hex_none (bytes : Nat) (lead : Option Nat) (taken cs : List Char)
    (a : List Char × List Char) : textFrom (.hex bytes none lead) taken cs ≠ .ok a := by
  induction cs generalizing bytes with
  | nil => exact nofun
  | cons c cs ih =>
    by_cases hb : bytes + c.utf8Size < 4
    · simp only [textFrom, hexStep, hb, if_true]
      exact ih _
    · simp [textFrom, hexStep, hb]

/-- The next character of an escape is a digit. -/
theorem exists_digit_of_textFrom {bytes value : Nat} {lead : Option Nat} {taken cs : List Char}
    {a : List Char × List Char} (h : textFrom (.hex bytes (some value) lead) taken cs = .ok a) :
    ∃ (d : HexDigit) (cs' : List Char), cs = d.char :: cs' ∧ (bytes + 1 < 4 →
      textFrom (.hex (bytes + 1) (some (value * 16 + d.value)) lead) taken cs' = .ok a) := by
  cases cs with
  | nil => cases h
  | cons c cs =>
    cases hc : hexValue? c with
    | none =>
      by_cases hb : bytes + c.utf8Size < 4
      · simp only [textFrom, hexStep, hc, hb, if_true] at h
        exact (textFrom_hex_none _ _ _ _ _ h).elim
      · simp [textFrom, hexStep, hc, hb] at h
    | some v =>
      refine ⟨⟨c, v, hc⟩, cs, rfl, fun hb => ?_⟩
      have hsize : c.utf8Size = 1 := HexDigit.utf8Size ⟨c, v, hc⟩
      simpa [textFrom, hexStep, hc, hsize, hb] using h

/-- An escape by number has four digits. -/
theorem exists_digits_of_textFrom {lead : Option Nat} {taken cs : List Char}
    {t : List Char × List Char} (h : textFrom (.hex 0 (some 0) lead) taken cs = .ok t) :
    ∃ (a b c d : HexDigit) (cs' : List Char),
      cs = a.char :: b.char :: c.char :: d.char :: cs' ∧
      ∃ stand ch, endEscape (Piece.number a b c d) lead = .ok (stand, ch) ∧
        textFrom stand (ch.toList ++ taken) cs' = .ok t := by
  obtain ⟨a, cs, rfl, h₁⟩ := exists_digit_of_textFrom h
  obtain ⟨b, cs, rfl, h₂⟩ := exists_digit_of_textFrom (h₁ (by decide))
  obtain ⟨c, cs, rfl, h₃⟩ := exists_digit_of_textFrom (h₂ (by decide))
  obtain ⟨d, cs, rfl, -⟩ := exists_digit_of_textFrom (h₃ (by decide))
  refine ⟨a, b, c, d, cs, rfl, ?_⟩
  rw [textFrom_unit] at h
  cases he : endEscape (Piece.number a b c d) lead with
  | error e => rw [he] at h; cases h
  | ok p => rw [he] at h; exact ⟨p.1, p.2, rfl, h⟩

/-- Behind a backslash stands the rest of an escape. A leading surrogate needs a second one. -/
theorem exists_pieces_of_escape {taken cs : List Char} {t : List Char × List Char}
    (h : textFrom .escape taken cs = .ok t) : ∃ (q : Quoted) (taken' cs' : List Char),
      '\\' :: cs = q.chars ++ cs' ∧ cs'.length < cs.length ∧
        textFrom .plain taken' cs' = .ok t := by
  cases cs with
  | nil => cases h
  | cons letter cs =>
    rw [textFrom] at h
    split_ifs at h with hu
    · obtain ⟨a, b, c, d, cs, rfl, stand, ch, he, h⟩ := exists_digits_of_textFrom h
      rw [endEscape] at he
      split_ifs at he <;> cases he
      · cases cs with
        | nil => cases h
        | cons backslash cs =>
          rw [textFrom] at h
          split_ifs at h with hbackslash
          cases cs with
          | nil => cases h
          | cons letter' cs =>
            rw [textFrom] at h
            split_ifs at h with hu'
            obtain ⟨a', b', c', d', cs, rfl, stand, ch, he, h⟩ := exists_digits_of_textFrom h
            rw [endEscape] at he
            split_ifs at he
            cases he
            exact ⟨[.unit a b c d, .unit a' b' c' d'], _, cs, by rw [hu, hbackslash, hu']; rfl,
              by simp; omega, h⟩
      · exact ⟨[.unit a b c d], _, cs, by rw [hu]; rfl, by simp; omega, h⟩
    · split at h
      · rename_i c hshort
        exact ⟨[.short letter c hshort], _, cs, rfl, by simp, h⟩
      · cases h

/-- What is read as a text is a text as it is written, with its closing quote. -/
theorem textFrom_eq_ok {taken cs t rest : List Char}
    (h : textFrom .plain taken cs = .ok (t, rest)) : ∃ q : Quoted, cs = q.chars ++ '"' :: rest := by
  induction hn : cs.length using Nat.strong_induction_on generalizing taken cs with
  | _ n ih =>
    subst hn
    cases cs with
    | nil => cases h
    | cons c cs =>
      rw [textFrom] at h
      split_ifs at h with hquote hbackslash hcontrol
      · cases h
        exact ⟨[], by rw [hquote]; rfl⟩
      · obtain ⟨ps, taken', cs', hps, hlt, h⟩ := exists_pieces_of_escape h
        obtain ⟨q, rfl⟩ := ih _ (by simp; omega) h rfl
        refine ⟨ps ++ q, ?_⟩
        rw [hbackslash, hps, Quoted.chars, Quoted.chars, Quoted.chars, List.flatMap_append,
          List.append_assoc]
      · obtain ⟨q, rfl⟩ := ih _ (by simp) h rfl
        exact ⟨.plain c ⟨hquote, hbackslash, by omega⟩ :: q, rfl⟩

/-! ## Numbers -/

/-- The digits in front. -/
theorem exists_digits {c : Char} (hc : c.isDigit = true) (cs : List Char) : ∃ d : Digits,
    (c :: cs).takeWhile Char.isDigit = d.chars ∧
      c :: cs = d.chars ++ (c :: cs).dropWhile Char.isDigit := by
  refine ⟨⟨(c :: cs).takeWhile Char.isDigit, ?_, List.all_eq_true.1 List.all_takeWhile⟩, rfl,
    List.takeWhile_append_dropWhile.symm⟩
  rw [List.takeWhile_cons_of_pos hc]
  exact List.cons_ne_nil _ _

/-- An exponent with either letter. -/
theorem exponentChars_of_letter {c : Char} (hc : c = 'e' ∨ c = 'E') (sign : Option Bool)
    (d : Digits) : Exponent.chars ⟨c = 'E', sign, d⟩ =
      c :: (Exponent.signChars ⟨c = 'E', sign, d⟩ ++ d.chars) := by
  rcases hc with rfl | rfl <;> rfl

theorem readExponent_eq_ok {negative : Bool} {significand : Nat} {exponent : Int} {c : Char}
    {cs : List Char} {x : Number} {rest : List Char} (hc : c = 'e' ∨ c = 'E')
    (h : readExponent negative significand exponent cs = .ok (x, rest)) :
    ∃ e : Exponent, c :: cs = e.chars ++ rest := by
  unfold readExponent at h
  split at h
  rename_i down cs' hcs
  have hsign : ∃ sign : Option Bool, ∀ b d, cs = Exponent.signChars ⟨b, sign, d⟩ ++ cs' := by
    split at hcs <;> cases hcs
    · exact ⟨some false, fun _ _ => rfl⟩
    · exact ⟨some true, fun _ _ => rfl⟩
    · exact ⟨none, fun _ _ => rfl⟩
  obtain ⟨sign, hsign⟩ := hsign
  cases cs' with
  | nil => cases h
  | cons c' cs' =>
    dsimp only at h
    split at h
    · rename_i hdigit
      obtain ⟨d, -, hd⟩ := exists_digits hdigit cs'
      split at h
      · cases h
      · rw [bind_eq_ok] at h
        obtain ⟨y, -, hy⟩ := h
        cases hy
        refine ⟨⟨c = 'E', sign, d⟩, ?_⟩
        rw [exponentChars_of_letter hc, List.cons_append, List.append_assoc, ← hd, ← hsign]
    · cases h

/-- A fraction behind its point, and the exponent if there is one. -/
theorem readFraction_eq_ok {negative : Bool} {significand : Nat} {exponent : Int} {cs : List Char}
    {x : Number} {rest : List Char}
    (h : readFraction negative significand exponent cs = .ok (x, rest)) :
    ∃ (d : Digits) (e? : Option Exponent),
      cs = d.chars ++ (e?.elim [] Exponent.chars ++ rest) := by
  unfold readFraction at h
  cases cs with
  | nil => cases h
  | cons c cs =>
    simp only at h
    split_ifs at h with hc
    obtain ⟨d, -, hd⟩ := exists_digits hc cs
    rw [hd]
    split at h
    · rename_i more hmore
      obtain ⟨e, he⟩ := readExponent_eq_ok (.inl rfl) h
      exact ⟨d, some e, by rw [hmore, he, Option.elim_some]⟩
    · rename_i more hmore
      obtain ⟨e, he⟩ := readExponent_eq_ok (.inr rfl) h
      exact ⟨d, some e, by rw [hmore, he, Option.elim_some]⟩
    · rw [bind_eq_ok] at h
      obtain ⟨y, -, hy⟩ := h
      cases hy
      exact ⟨d, none, rfl⟩

/-- A number behind its sign. -/
theorem readNumber_eq_ok {negative : Bool} {cs : List Char} {x : Number} {rest : List Char}
    (h : readNumber negative cs = .ok (x, rest)) :
    ∃ n : Numeral, n.isNegative = negative ∧ cs = n.magnitude ++ rest := by
  unfold readNumber at h
  cases cs with
  | nil => cases h
  | cons c cs =>
    simp only at h
    split_ifs at h with hc hzero
    obtain ⟨d, hd, hcs⟩ := exists_digits hc cs
    have hone : d.chars.head? = some '0' → d.chars = ['0'] := by
      rw [← hd, List.takeWhile_cons_of_pos hc, List.head?_cons, Option.some.injEq]
      intro hhead
      have hnone : (cs.takeWhile Char.isDigit).length = 0 := by
        by_contra hne
        exact hzero ⟨hhead, hne⟩
      rw [hhead, List.length_eq_zero_iff.1 hnone]
    rw [hcs]
    split at h
    · rename_i more hmore
      obtain ⟨f, e?, rfl⟩ := readFraction_eq_ok h
      refine ⟨⟨negative, d, hone, some f, e?⟩, rfl, ?_⟩
      rw [hmore]
      simp [Numeral.magnitude, Numeral.tail]
    · rename_i more hmore
      obtain ⟨e, he⟩ := readExponent_eq_ok (.inl rfl) h
      refine ⟨⟨negative, d, hone, none, some e⟩, rfl, ?_⟩
      rw [hmore, he]
      simp [Numeral.magnitude, Numeral.tail]
    · rename_i more hmore
      obtain ⟨e, he⟩ := readExponent_eq_ok (.inr rfl) h
      refine ⟨⟨negative, d, hone, none, some e⟩, rfl, ?_⟩
      rw [hmore, he]
      simp [Numeral.magnitude, Numeral.tail]
    · rw [bind_eq_ok] at h
      obtain ⟨y, -, hy⟩ := h
      cases hy
      exact ⟨⟨negative, d, hone, none, none⟩, rfl, by simp [Numeral.magnitude, Numeral.tail]⟩

/-! ## Values that are passed over -/

variable {mode : Mode} {brackets : List Bracket} {cs r : List Char}

theorem skipFrom_hex_false (isKey : Bool) (bytes : Nat) (cs : List Char) :
    skipFrom (.hex isKey bytes false) brackets cs ≠ .ok r := by
  induction cs generalizing bytes with
  | nil => exact nofun
  | cons c cs ih =>
    by_cases hb : bytes + c.utf8Size < 4
    · simp only [skipFrom, step, Bool.false_and, hb, if_true]
      exact ih _
    · simp [skipFrom, step, hb]

theorem exists_digit_of_skipFrom {isKey : Bool} {bytes : Nat}
    (h : skipFrom (.hex isKey bytes true) brackets cs = .ok r) :
    ∃ (d : HexDigit) (cs' : List Char), cs = d.char :: cs' ∧
      skipFrom (if bytes + 1 < 4 then .hex isKey (bytes + 1) true else .text isKey) brackets cs' =
        .ok r := by
  cases cs with
  | nil => cases h
  | cons c cs =>
    cases hc : hexValue? c with
    | none =>
      by_cases hb : bytes + c.utf8Size < 4
      · simp only [skipFrom, step, hc, Option.isSome_none, Bool.and_false, hb, if_true] at h
        exact (skipFrom_hex_false _ _ _ h).elim
      · simp [skipFrom, step, hc, hb] at h
    | some v =>
      refine ⟨⟨c, v, hc⟩, cs, rfl, ?_⟩
      have hsize : c.utf8Size = 1 := HexDigit.utf8Size ⟨c, v, hc⟩
      by_cases hb : bytes + 1 < 4 <;> simpa [skipFrom, step, hc, hsize, hb] using h

theorem exists_piece_of_skipFrom {isKey : Bool}
    (h : skipFrom (.escape isKey) brackets cs = .ok r) : ∃ (p : Piece) (cs' : List Char),
      '\\' :: cs = p.chars ++ cs' ∧ cs'.length < cs.length ∧
        skipFrom (.text isKey) brackets cs' = .ok r := by
  cases cs with
  | nil => cases h
  | cons letter cs =>
    by_cases hu : letter = 'u'
    · subst hu
      rw [skipFrom_go (m := .hex isKey 0 true) (t := brackets) (by simp [step])] at h
      obtain ⟨a, cs, rfl, h₁⟩ := exists_digit_of_skipFrom h
      obtain ⟨b, cs, rfl, h₂⟩ := exists_digit_of_skipFrom h₁
      obtain ⟨c, cs, rfl, h₃⟩ := exists_digit_of_skipFrom h₂
      obtain ⟨d, cs, rfl, h₄⟩ := exists_digit_of_skipFrom h₃
      exact ⟨.unit a b c d, cs, rfl, by simp; omega, h₄⟩
    · cases hshort : shortEscape? letter with
      | none => simp [skipFrom, step, hu, hshort] at h
      | some c =>
        rw [skipFrom_go (m := .text isKey) (t := brackets) (by simp [step, hu, hshort])] at h
        exact ⟨.short letter c hshort, cs, rfl, by simp, h⟩

/-- A text that is passed over. -/
theorem skipFrom_text_eq_ok {isKey : Bool} (h : skipFrom (.text isKey) brackets cs = .ok r) :
    ∃ (q : Quoted) (mid : List Char), cs = q.chars ++ '"' :: mid ∧
      (if isKey then skipFrom .colon brackets mid else resume brackets mid) = .ok r := by
  induction hn : cs.length using Nat.strong_induction_on generalizing cs with
  | _ n ih =>
    subst hn
    cases cs with
    | nil => cases h
    | cons c cs =>
      by_cases hquote : c = '"'
      · subst hquote
        refine ⟨[], cs, rfl, ?_⟩
        rw [← h]
        exact (skipFrom_chars isKey [] cs).symm
      · by_cases hbackslash : c = '\\'
        · rw [skipFrom_go (m := .escape isKey) (t := brackets) (by simp [step, hbackslash])] at h
          obtain ⟨p, cs', hp, hlt, h'⟩ := exists_piece_of_skipFrom h
          obtain ⟨q, mid, rfl, hr⟩ := ih _ (by simp; omega) h' rfl
          refine ⟨p :: q, mid, ?_, hr⟩
          rw [hbackslash, hp, Quoted.chars, Quoted.chars, List.flatMap_cons, List.append_assoc]
        · by_cases hcontrol : c.toNat < 0x20
          · simp [skipFrom, step, hquote, hbackslash, hcontrol] at h
          · rw [skipFrom_go (m := .text isKey) (t := brackets)
              (by simp [step, hquote, hbackslash, hcontrol])] at h
            obtain ⟨q, mid, rfl, hr⟩ := ih _ (by simp) h rfl
            exact ⟨.plain c ⟨hquote, hbackslash, by omega⟩ :: q, mid, rfl, hr⟩

/-- The digits in which a mode stands, and what it finds behind them. -/
theorem skipFrom_dropWhile (hm : mode.InDigits) :
    skipFrom mode brackets (cs.dropWhile Char.isDigit) = skipFrom mode brackets cs := by
  have hds : ∀ c ∈ cs.takeWhile Char.isDigit, c.isDigit = true :=
    List.all_eq_true.1 List.all_takeWhile
  rw [← skipFrom_digits hm hds, List.takeWhile_append_dropWhile]

theorem isDigit_head?_dropWhile : ∀ c ∈ (cs.dropWhile Char.isDigit).head?, c.isDigit = false := by
  intro c hc
  have h := List.head?_dropWhile_not Char.isDigit cs
  rw [Option.mem_def.1 hc] at h
  simpa using h

/-- One digit or more lead into a mode. -/
theorem exists_digits_of_skipFrom {m : Mode} (hm : m.InDigits)
    (hdigit : ∀ c, c.isDigit = true → step mode brackets c = .ok (.go m brackets))
    {c : Char} (hc : c.isDigit = true) (h : skipFrom mode brackets (c :: cs) = .ok r) :
    ∃ (d : Digits) (mid : List Char), c :: cs = d.chars ++ mid ∧
      (∀ c ∈ mid.head?, c.isDigit = false) ∧ skipFrom m brackets mid = .ok r := by
  obtain ⟨d, -, hd⟩ := exists_digits hc cs
  refine ⟨d, _, hd, isDigit_head?_dropWhile, ?_⟩
  rw [skipFrom_go (hdigit c hc)] at h
  rw [List.dropWhile_cons_of_pos hc, skipFrom_dropWhile hm, h]

/-- An exponent with its letter. -/
theorem skipFrom_exponentLetter_eq_ok {c : Char} (hc : c = 'e' ∨ c = 'E')
    (h : skipFrom .exponentLetter brackets cs = .ok r) :
    ∃ (e : Exponent) (mid : List Char), c :: cs = e.chars ++ mid ∧ resume brackets mid = .ok r := by
  have hexp : Mode.exponent.InDigits := .inr (.inr rfl)
  have hend {mid : List Char} (hmid : ∀ c ∈ mid.head?, c.isDigit = false)
      (h : skipFrom .exponent brackets mid = .ok r) : resume brackets mid = .ok r := by
    rw [← h]
    refine (skipFrom_eq_resume (.inr hexp) fun c hc => ?_).symm
    simp [step, afterDigits, hmid c hc]
  have hsigned {sign : Char} (hsign : sign = '+' ∨ sign = '-') {cs : List Char}
      (h : skipFrom .exponentLetter brackets (sign :: cs) = .ok r) :
      ∃ (d : Digits) (mid : List Char), cs = d.chars ++ mid ∧ resume brackets mid = .ok r := by
    rw [skipFrom_go (m := .exponentSign) (t := brackets) (by simp [step, hsign])] at h
    cases cs with
    | nil => cases h
    | cons c cs =>
      by_cases hd : c.isDigit = true
      · obtain ⟨d, mid, hcs, hmid, h⟩ :=
          exists_digits_of_skipFrom hexp (fun c hc => by simp [step, hc]) hd h
        exact ⟨d, mid, hcs, hend hmid h⟩
      · simp [skipFrom, step, hd] at h
  cases cs with
  | nil => cases h
  | cons sign cs =>
    by_cases hplus : sign = '+'
    · obtain ⟨d, mid, rfl, hr⟩ := hsigned (.inl hplus) h
      exact ⟨⟨c = 'E', some false, d⟩, mid, by rw [hplus, exponentChars_of_letter hc]; rfl, hr⟩
    · by_cases hminus : sign = '-'
      · obtain ⟨d, mid, rfl, hr⟩ := hsigned (.inr hminus) h
        exact ⟨⟨c = 'E', some true, d⟩, mid, by rw [hminus, exponentChars_of_letter hc]; rfl, hr⟩
      · by_cases hd : sign.isDigit = true
        · obtain ⟨d, mid, hcs, hmid, h⟩ := exists_digits_of_skipFrom hexp (fun c hc => by
            simp [step, hc, ne_of_isDigit (d := '+') hc rfl, ne_of_isDigit (d := '-') hc rfl]) hd h
          exact ⟨⟨c = 'E', none, d⟩, mid, by rw [hcs, exponentChars_of_letter hc]; rfl, hend hmid h⟩
        · simp [skipFrom, step, hplus, hminus, hd] at h

/-- Behind digits stands an exponent, or the value has ended. -/
theorem exists_exponent_of_skipFrom (hm : mode = .zero ∨ mode = .integer ∨ mode = .fraction)
    (hdigit : ∀ c ∈ cs.head?, c.isDigit = false)
    (hpoint : ∀ c ∈ cs.head?, mode = .fraction ∨ c ≠ '.')
    (h : skipFrom mode brackets cs = .ok r) : ∃ (e? : Option Exponent) (mid : List Char),
      cs = e?.elim [] Exponent.chars ++ mid ∧ resume brackets mid = .ok r := by
  by_cases hc : ∃ c cs', cs = c :: cs' ∧ (c = 'e' ∨ c = 'E')
  · obtain ⟨c, cs', rfl, hc⟩ := hc
    rw [skipFrom_go (step_exponentLetter hm hc)] at h
    obtain ⟨e, mid, he, hr⟩ := skipFrom_exponentLetter_eq_ok hc h
    exact ⟨some e, mid, he, hr⟩
  · refine ⟨none, cs, rfl, ?_⟩
    rw [← h]
    refine (skipFrom_eq_resume (hm.imp id (Or.imp id .inl)) fun c hcs => ?_).symm
    have hne : ¬(c = 'e' ∨ c = 'E') := fun he =>
      hc ⟨c, cs.tail, (List.cons_head?_tail hcs).symm, he⟩
    have hd := hdigit c hcs
    rcases hpoint c hcs with rfl | hp
    · simp [step, afterDigits, hd, hne]
    · rcases hm with rfl | rfl | rfl <;> simp [step, afterDigits, hd, hne, hp]

/-- What stands behind the digits before the point. -/
theorem exists_tail_of_skipFrom (hm : mode = .zero ∨ mode = .integer)
    (hdigit : ∀ c ∈ cs.head?, c.isDigit = false) (h : skipFrom mode brackets cs = .ok r) :
    ∃ (f? : Option Digits) (e? : Option Exponent) (mid : List Char),
      cs = f?.elim [] (fun d => '.' :: d.chars) ++ (e?.elim [] Exponent.chars ++ mid) ∧
        resume brackets mid = .ok r := by
  by_cases hp : ∃ cs', cs = '.' :: cs'
  · obtain ⟨cs, rfl⟩ := hp
    rw [skipFrom_go (step_point hm)] at h
    cases cs with
    | nil => cases h
    | cons c cs =>
      by_cases hc : c.isDigit = true
      · obtain ⟨d, mid, hcs, hmid, h⟩ := exists_digits_of_skipFrom (.inr (.inl rfl))
          (fun c hc => by simp [step, hc]) hc h
        obtain ⟨e?, mid, rfl, hr⟩ :=
          exists_exponent_of_skipFrom (.inr (.inr rfl)) hmid (fun _ _ => .inl rfl) h
        exact ⟨some d, e?, mid, by rw [hcs]; rfl, hr⟩
      · simp [skipFrom, step, hc] at h
  · have hpoint : ∀ c ∈ cs.head?, mode = .fraction ∨ c ≠ '.' := fun c hc =>
      .inr fun he => hp ⟨cs.tail, by rw [← he]; exact (List.cons_head?_tail hc).symm⟩
    obtain ⟨e?, mid, rfl, hr⟩ := exists_exponent_of_skipFrom (hm.imp id .inl) hdigit hpoint h
    exact ⟨none, e?, mid, rfl, hr⟩

/-- A number behind its sign. -/
theorem exists_numeral_of_skipFrom (isNegative : Bool) {c : Char} (hc : c.isDigit = true)
    (hstep : step mode brackets c = .ok (.go (if c = '0' then .zero else .integer) brackets))
    (h : skipFrom mode brackets (c :: cs) = .ok r) :
    ∃ (n : Numeral) (mid : List Char), n.isNegative = isNegative ∧
      c :: cs = n.magnitude ++ mid ∧ resume brackets mid = .ok r := by
  rw [skipFrom_go hstep] at h
  by_cases hzero : c = '0'
  · subst hzero
    rw [if_pos rfl] at h
    have hdigit : ∀ c ∈ cs.head?, c.isDigit = false := by
      intro c hcs
      rw [← List.cons_head?_tail hcs] at h
      by_contra hd
      rw [Bool.not_eq_false] at hd
      simp [skipFrom, step, hd] at h
    obtain ⟨f?, e?, mid, rfl, hr⟩ := exists_tail_of_skipFrom (.inl rfl) hdigit h
    refine ⟨⟨isNegative, ⟨['0'], by simp, by simp⟩, fun _ => rfl, f?, e?⟩, mid, rfl, ?_, hr⟩
    simp [Numeral.magnitude, Numeral.tail]
  · rw [if_neg hzero] at h
    obtain ⟨d, hd, hcs⟩ := exists_digits hc cs
    rw [← skipFrom_dropWhile (.inl rfl)] at h
    obtain ⟨f?, e?, mid, hmid, hr⟩ :=
      exists_tail_of_skipFrom (.inr rfl) isDigit_head?_dropWhile h
    have hone : d.chars.head? = some '0' → d.chars = ['0'] := by
      rw [← hd, List.takeWhile_cons_of_pos hc]
      intro hhead
      exact absurd (Option.some.inj hhead) hzero
    refine ⟨⟨isNegative, d, hone, f?, e?⟩, mid, rfl, ?_, hr⟩
    rw [hcs, List.dropWhile_cons_of_pos hc, hmid]
    simp [Numeral.magnitude, Numeral.tail]

theorem skipFrom_literal_eq_ok {es : List Char} (hne : es ≠ [])
    (h : skipFrom (.literal es) brackets cs = .ok r) :
    ∃ mid : List Char, cs = es ++ mid ∧ resume brackets mid = .ok r := by
  induction es generalizing cs with
  | nil => exact absurd rfl hne
  | cons e es ih =>
    cases cs with
    | nil => cases h
    | cons c cs =>
      by_cases hc : c = e
      · subst hc
        cases es with
        | nil =>
          rw [skipFrom_end (t := brackets) (by simp [step])] at h
          exact ⟨cs, rfl, h⟩
        | cons e es =>
          rw [skipFrom_go (m := .literal (e :: es)) (t := brackets) (by simp [step])] at h
          obtain ⟨mid, rfl, hr⟩ := ih (by simp) h
          exact ⟨mid, rfl, hr⟩
      · simp [skipFrom, step, hc] at h

/-- The characters with which a value starts. -/
theorem start_of_skipFrom_value {c : Char} (hs : isSpace c = false)
    (h : skipFrom .value brackets (c :: cs) = .ok r) :
    (c = 'n' ∨ c = 't' ∨ c = 'f' ∨ c = '-' ∨ c.isDigit = true ∨ c = '"') ∨ c = '[' ∨ c = '{' := by
  by_contra hc
  simp only [not_or] at hc
  have hzero : c ≠ '0' := by rintro rfl; simp at hc
  simp [skipFrom, step, startValue, hs, hc, hzero] at h

/-- A value without brackets that is passed over. -/
theorem exists_scalar_of_skipFrom {c : Char}
    (hc : c = 'n' ∨ c = 't' ∨ c = 'f' ∨ c = '-' ∨ c.isDigit = true ∨ c = '"')
    (h : skipFrom .value brackets (c :: cs) = .ok r) :
    ∃ (n : Node) (mid : List Char), c :: cs = n.render ++ mid ∧ resume brackets mid = .ok r := by
  rcases hc with rfl | rfl | rfl | rfl | hd | rfl
  · rw [skipFrom_go (m := .literal ['u', 'l', 'l']) (t := brackets) rfl] at h
    obtain ⟨mid, rfl, hr⟩ := skipFrom_literal_eq_ok (by simp) h
    exact ⟨.null, mid, rfl, hr⟩
  · rw [skipFrom_go (m := .literal ['r', 'u', 'e']) (t := brackets) rfl] at h
    obtain ⟨mid, rfl, hr⟩ := skipFrom_literal_eq_ok (by simp) h
    exact ⟨.bool true, mid, rfl, hr⟩
  · rw [skipFrom_go (m := .literal ['a', 'l', 's', 'e']) (t := brackets) rfl] at h
    obtain ⟨mid, rfl, hr⟩ := skipFrom_literal_eq_ok (by simp) h
    exact ⟨.bool false, mid, rfl, hr⟩
  · rw [skipFrom_go (m := .sign) (t := brackets) rfl] at h
    cases cs with
    | nil => cases h
    | cons c cs =>
      by_cases hd : c.isDigit = true
      · have hstep : step .sign brackets c =
            .ok (.go (if c = '0' then .zero else .integer) brackets) := by
          rw [step, if_pos hd]
          split <;> rfl
        obtain ⟨n, mid, hneg, hn, hr⟩ := exists_numeral_of_skipFrom true hd hstep h
        exact ⟨.number n, mid, by rw [hn, Node.render, Numeral.chars, hneg]; rfl, hr⟩
      · have hzero : c ≠ '0' := by rintro rfl; simp at hd
        simp [skipFrom, step, hzero, hd] at h
  · have hstep : step .value brackets c =
        .ok (.go (if c = '0' then .zero else .integer) brackets) := startValue_digit hd
    obtain ⟨n, mid, hneg, hn, hr⟩ := exists_numeral_of_skipFrom false hd hstep h
    exact ⟨.number n, mid, by rw [hn, Node.render, Numeral.chars, hneg]; rfl, hr⟩
  · rw [skipFrom_go (m := .text false) (t := brackets) rfl] at h
    obtain ⟨q, mid, rfl, hr⟩ := skipFrom_text_eq_ok h
    exact ⟨.text q, mid, by simp [Node.render], hr⟩

/-- A key with its colon. -/
theorem exists_key_of_skipFrom (h : skipFrom .key brackets cs = .ok r) :
    ∃ (key : Padded Quoted) (cs' : List Char), cs = key.before.chars ++ ('"' :: (key.core.chars ++
      ('"' :: (key.after.chars ++ (':' :: cs'))))) ∧ skipFrom .value brackets cs' = .ok r := by
  obtain ⟨before, hbefore⟩ := exists_space cs
  rw [hbefore, skipFrom_key_space] at h
  cases hcs : skipSpace cs with
  | nil => rw [hcs] at h; cases h
  | cons c cs' =>
    rw [hcs] at h hbefore
    have hc : isSpace c = false := isSpace_of_skipSpace hcs
    by_cases hq : c = '"'
    · rw [hq, skipFrom_go (m := .text true) (t := brackets) rfl] at h
      obtain ⟨q, mid, rfl, hr⟩ := skipFrom_text_eq_ok h
      obtain ⟨after, hafter⟩ := exists_space mid
      rw [if_pos rfl, hafter, skipFrom_colon_space] at hr
      cases hmid : skipSpace mid with
      | nil => rw [hmid] at hr; cases hr
      | cons c' cs'' =>
        rw [hmid] at hr hafter
        have hc' : isSpace c' = false := isSpace_of_skipSpace hmid
        by_cases hcolon : c' = ':'
        · rw [hcolon, skipFrom_go (m := .value) (t := brackets) rfl] at hr
          exact ⟨⟨before, q, after⟩, cs'', by rw [hbefore, hq, hafter, hcolon], hr⟩
        · simp [skipFrom, step, hc', hcolon] at hr
    · simp [skipFrom, step, startKey, hc, hq] at h

theorem length_lt_of_node {s : Space} {n : Node} {mid : List Char}
    (h : cs = s.chars ++ (n.render ++ mid)) : mid.length < cs.length := by
  obtain ⟨c, ds, hn, -⟩ := n.render_eq_cons
  rw [h, hn]
  simp
  omega

/-! The machine keeps its open brackets on a stack, so what it has passed over is a whole value only
with what closes them. The lemmas say for each place where it can stand what it passes over until
the innermost bracket is closed, by induction on the text that is left. -/

mutual

/-- A value that is passed over is a value as it is written. -/
theorem skipFrom_value_eq_ok {brackets : List Bracket} {cs r : List Char}
    (h : skipFrom .value brackets cs = .ok r) : ∃ (s : Space) (n : Node) (mid : List Char),
      cs = s.chars ++ (n.render ++ mid) ∧ resume brackets mid = .ok r := by
  obtain ⟨s, hs⟩ := exists_space cs
  rw [hs, skipFrom_value_space] at h
  cases hcs : skipSpace cs with
  | nil => rw [hcs] at h; cases h
  | cons c cs' =>
    rw [hcs] at h hs
    have hlt : cs'.length < cs.length := by rw [hs]; simp; omega
    rcases start_of_skipFrom_value (isSpace_of_skipSpace hcs) h with hc | rfl | rfl
    · obtain ⟨n, mid, hn, hr⟩ := exists_scalar_of_skipFrom hc h
      exact ⟨s, n, mid, by rw [hs, hn], hr⟩
    · rw [skipFrom_go (m := .opened) (t := .list :: brackets) rfl] at h
      obtain ⟨inside, ps, mid, rfl, hr⟩ := skipFrom_opened_list_eq_ok h
      exact ⟨s, .list inside ps, mid, by rw [hs, Node.render]; simp, hr⟩
    · rw [skipFrom_go (m := .opened) (t := .object :: brackets) rfl] at h
      obtain ⟨inside, es, mid, rfl, hr⟩ := skipFrom_opened_object_eq_ok h
      exact ⟨s, .object inside es, mid, by rw [hs, Node.render]; simp, hr⟩
termination_by 2 * cs.length
decreasing_by all_goals grind

/-- The values of a list from behind its opening bracket. -/
theorem skipFrom_opened_list_eq_ok {brackets : List Bracket} {cs r : List Char}
    (h : skipFrom .opened (.list :: brackets) cs = .ok r) :
    ∃ (inside : Space) (ps : List (Padded Node)) (mid : List Char),
      cs = inside.chars ++ (Node.renderItems ps ++ mid) ∧ resume brackets mid = .ok r := by
  obtain ⟨s, hs⟩ := exists_space cs
  rw [hs, skipFrom_opened_space] at h
  cases hcs : skipSpace cs with
  | nil => rw [hcs] at h; cases h
  | cons c cs' =>
    rw [hcs] at h hs
    have hc : isSpace c = false := isSpace_of_skipSpace hcs
    by_cases hclose : c = ']'
    · subst hclose
      rw [skipFrom_end (t := brackets) rfl] at h
      exact ⟨s, [], cs', hs, h⟩
    · have hvalue : skipFrom .value (.list :: brackets) (c :: cs') = .ok r := by
        rw [← h, skipFrom, skipFrom]
        simp [step, afterOpening, hc, Bracket.closing, hclose]
      have hle : (c :: cs').length ≤ cs.length := by rw [hs]; simp
      obtain ⟨before, n, mid, hn, hr⟩ := skipFrom_value_eq_ok hvalue
      have hlt := length_lt_of_node hn
      obtain ⟨after, ps, mid', rfl, hr'⟩ := resume_list_eq_ok hr
      exact ⟨s, ⟨before, n, after⟩ :: ps, mid', by
        rw [hs, hn, Node.renderItems, Node.renderPadded]; simp, hr'⟩
termination_by 2 * cs.length + 1
decreasing_by all_goals grind

/-- The values of a list from behind one of them. -/
theorem resume_list_eq_ok {brackets : List Bracket} {cs r : List Char}
    (h : resume (.list :: brackets) cs = .ok r) :
    ∃ (s : Space) (ps : List (Padded Node)) (mid : List Char),
      cs = s.chars ++ (Node.renderMoreItems ps ++ mid) ∧ resume brackets mid = .ok r := by
  obtain ⟨s, hs⟩ := exists_space cs
  rw [hs, resume_space] at h
  change skipFrom .after _ _ = _ at h
  cases hcs : skipSpace cs with
  | nil => rw [hcs] at h; cases h
  | cons c cs' =>
    rw [hcs] at h hs
    have hc : isSpace c = false := isSpace_of_skipSpace hcs
    have hlt : cs'.length < cs.length := by rw [hs]; simp; omega
    by_cases hclose : c = ']'
    · subst hclose
      rw [skipFrom_end (t := brackets) rfl] at h
      exact ⟨s, [], cs', hs, h⟩
    by_cases hcomma : c = ','
    · subst hcomma
      rw [skipFrom_go (m := .value) (t := .list :: brackets) rfl] at h
      obtain ⟨before, n, mid, hn, hr⟩ := skipFrom_value_eq_ok h
      have hlt' := length_lt_of_node hn
      obtain ⟨after, ps, mid', rfl, hr'⟩ := resume_list_eq_ok hr
      exact ⟨s, ⟨before, n, after⟩ :: ps, mid', by
        rw [hs, hn, Node.renderMoreItems, Node.renderPadded]; simp, hr'⟩
    · simp [skipFrom, step, afterValue, hc, hcomma, Bracket.closing, hclose] at h
termination_by 2 * cs.length
decreasing_by all_goals grind

/-- The members of an object from behind its opening bracket. -/
theorem skipFrom_opened_object_eq_ok {brackets : List Bracket} {cs r : List Char}
    (h : skipFrom .opened (.object :: brackets) cs = .ok r) :
    ∃ (inside : Space) (es : List (Entry Node)) (mid : List Char),
      cs = inside.chars ++ (Node.renderEntries es ++ mid) ∧ resume brackets mid = .ok r := by
  obtain ⟨s, hs⟩ := exists_space cs
  rw [hs, skipFrom_opened_space] at h
  cases hcs : skipSpace cs with
  | nil => rw [hcs] at h; cases h
  | cons c cs' =>
    rw [hcs] at h hs
    have hc : isSpace c = false := isSpace_of_skipSpace hcs
    by_cases hclose : c = '}'
    · subst hclose
      rw [skipFrom_end (t := brackets) rfl] at h
      exact ⟨s, [], cs', hs, h⟩
    · have hkey : skipFrom .key (.object :: brackets) (c :: cs') = .ok r := by
        rw [← h, skipFrom, skipFrom]
        simp [step, afterOpening, hc, Bracket.closing, hclose]
      obtain ⟨key, cs'', hk, h⟩ := exists_key_of_skipFrom hkey
      have hlt : cs''.length < cs.length := by rw [hs, hk]; simp; omega
      obtain ⟨before, n, mid, hn, hr⟩ := skipFrom_value_eq_ok h
      have hlt' := length_lt_of_node hn
      obtain ⟨after, es, mid', rfl, hr'⟩ := resume_object_eq_ok hr
      exact ⟨s, ⟨key, ⟨before, n, after⟩⟩ :: es, mid', by
        rw [hs, hk, hn, Node.renderEntries, Node.renderEntry, Node.renderPadded]; simp, hr'⟩
termination_by 2 * cs.length + 1
decreasing_by all_goals grind

/-- The members of an object from behind one of them. -/
theorem resume_object_eq_ok {brackets : List Bracket} {cs r : List Char}
    (h : resume (.object :: brackets) cs = .ok r) :
    ∃ (s : Space) (es : List (Entry Node)) (mid : List Char),
      cs = s.chars ++ (Node.renderMoreEntries es ++ mid) ∧ resume brackets mid = .ok r := by
  obtain ⟨s, hs⟩ := exists_space cs
  rw [hs, resume_space] at h
  change skipFrom .after _ _ = _ at h
  cases hcs : skipSpace cs with
  | nil => rw [hcs] at h; cases h
  | cons c cs' =>
    rw [hcs] at h hs
    have hc : isSpace c = false := isSpace_of_skipSpace hcs
    by_cases hclose : c = '}'
    · subst hclose
      rw [skipFrom_end (t := brackets) rfl] at h
      exact ⟨s, [], cs', hs, h⟩
    by_cases hcomma : c = ','
    · subst hcomma
      rw [skipFrom_go (m := .key) (t := .object :: brackets) rfl] at h
      obtain ⟨key, cs'', hk, h⟩ := exists_key_of_skipFrom h
      have hlt : cs''.length < cs.length := by rw [hs, hk]; simp; omega
      obtain ⟨before, n, mid, hn, hr⟩ := skipFrom_value_eq_ok h
      have hlt' := length_lt_of_node hn
      obtain ⟨after, es, mid', rfl, hr'⟩ := resume_object_eq_ok hr
      exact ⟨s, ⟨key, ⟨before, n, after⟩⟩ :: es, mid', by
        rw [hs, hk, hn, Node.renderMoreEntries, Node.renderEntry, Node.renderPadded]; simp, hr'⟩
    · simp [skipFrom, step, afterValue, hc, hcomma, Bracket.closing, hclose] at h
termination_by 2 * cs.length
decreasing_by all_goals grind

end

/-! ## Readers -/

variable {α β δ : Type}

/-- What a reader takes from the front of a text is a value as it is written. -/
def Takes (read : Reader α) : Prop :=
  ∀ ⦃cs : List Char⦄ ⦃a : α⦄ ⦃rest : List Char⦄, read cs = .ok (a, rest) →
    ∃ n : Node, skipSpace cs = n.render ++ rest

theorem skipSpace_skipSpace (cs : List Char) : skipSpace (skipSpace cs) = skipSpace cs :=
  List.dropWhile_idempotent isSpace cs

theorem takes_quoted (expected : String) : Takes (readQuoted expected) := by
  intro cs t rest h
  rw [readQuoted] at h
  split at h
  · cases h
  · rename_i cs' hcs
    obtain ⟨q, rfl⟩ := textFrom_eq_ok h
    exact ⟨.text q, by rw [hcs, Node.render]; simp⟩
  · cases h

theorem takes_unsigned (greatest : Nat) (expected : String) :
    Takes (readUnsigned greatest expected) := by
  intro cs k rest h
  unfold readUnsigned at h
  extract_lets checked at h
  -- what is checked is the number, so the text behind it is left
  have hchecked {x : Number} {mid : List Char} (hx : checked (x, mid) = .ok (k, rest)) :
      mid = rest := by
    cases x with
    | unsigned n =>
      dsimp only [checked] at hx
      split_ifs at hx
      cases hx
      rfl
    | signed n => cases hx
    | float negative magnitude => cases hx
  split at h
  · cases h
  · rename_i c cs' hcs
    rw [hcs]
    split_ifs at h with hsign hdigit
    · obtain ⟨⟨x, mid⟩, hx, hk⟩ := bind_eq_ok.1 h
      obtain ⟨n, hneg, rfl⟩ := readNumber_eq_ok hx
      exact ⟨.number n, by rw [Node.render, Numeral.chars, hneg, hsign, hchecked hk]; rfl⟩
    · obtain ⟨⟨x, mid⟩, hx, hk⟩ := bind_eq_ok.1 h
      obtain ⟨n, hneg, hn⟩ := readNumber_eq_ok hx
      exact ⟨.number n, by rw [Node.render, Numeral.chars, hneg, hn, hchecked hk]; rfl⟩

theorem Takes.optional {read : Reader α} (h : Takes read) : Takes (readOptional read) := by
  intro cs a? rest hread
  rw [readOptional] at hread
  split at hread
  · rename_i cs' hcs
    obtain ⟨mid, hmid, ⟨⟩⟩ := bind_eq_ok.1 hread
    rw [hcs, readLiteral_eq_ok hmid]
    exact ⟨.null, rfl⟩
  · obtain ⟨⟨a, mid⟩, hmid, ⟨⟩⟩ := bind_eq_ok.1 hread
    rw [← skipSpace_skipSpace]
    exact h hmid

theorem Takes.bind {read : Reader α} (h : Takes read)
    {next : α × List Char → Except Error (β × List Char)}
    (hnext : ∀ {a rest b rest'}, next (a, rest) = .ok (b, rest') → rest = rest') :
    Takes fun cs => read cs >>= next := by
  intro cs b rest hread
  obtain ⟨⟨a, mid⟩, hmid, hb⟩ := bind_eq_ok.1 hread
  obtain rfl := hnext hb
  exact h hmid

theorem Takes.member {read : Reader α} (h : Takes read) (name : String) (get : δ → Option α)
    (set : δ → α → δ) (draft : δ) : Takes ((member name get set read).read draft) :=
  h.bind fun hpure => by cases hpure; rfl

theorem exists_node_of_skip (h : skip cs = .ok r) : ∃ n : Node, skipSpace cs = n.render ++ r := by
  obtain ⟨s, n, mid, rfl, ⟨⟩⟩ := skipFrom_value_eq_ok h
  exact ⟨n, skipSpace_node s n _⟩

/-! ## Records -/

namespace Schema

variable {γ : Type} {members : List (Member δ)} {draft draft' : δ} {rest : List Char}

/-- Every member takes one value. -/
def TakesMembers (members : List (Member δ)) : Prop :=
  ∀ m ∈ members, ∀ draft, Takes (m.read draft)

theorem readColon_eq_ok (h : readColon cs = .ok r) :
    ∃ s : Space, cs = s.chars ++ ':' :: r := by
  obtain ⟨s, hs⟩ := exists_space cs
  rw [readColon] at h
  split at h
  · cases h
  · rename_i hcs
    cases h
    exact ⟨s, by rw [hs, hcs]⟩
  · cases h

/-- A member of an object, with the insignificant characters in front of its value. -/
theorem readMember_eq_ok (h : TakesMembers members)
    (hread : readMember members draft cs = .ok (draft', rest)) :
    ∃ (key : Quoted) (after before : Space) (n : Node), cs = key.chars ++ ('"' :: (after.chars ++
      (':' :: (before.chars ++ (n.render ++ rest))))) := by
  have hvalue {mid mid' : List Char} (hcolon : readColon mid = .ok mid')
      (hn : ∃ n : Node, skipSpace mid' = n.render ++ rest) : ∃ (after before : Space) (n : Node),
      mid = after.chars ++ (':' :: (before.chars ++ (n.render ++ rest))) := by
    obtain ⟨after, rfl⟩ := readColon_eq_ok hcolon
    obtain ⟨before, hbefore⟩ := exists_space mid'
    obtain ⟨n, hn⟩ := hn
    exact ⟨after, before, n, by rw [← hn, ← hbefore]⟩
  rw [readMember] at hread
  obtain ⟨⟨t, mid⟩, htext, hm⟩ := bind_eq_ok.1 hread
  obtain ⟨key, rfl⟩ := textFrom_eq_ok htext
  dsimp only at hm
  split at hm
  · rename_i m hfind
    split_ifs at hm
    obtain ⟨mid', hcolon, hm⟩ := bind_eq_ok.1 hm
    obtain ⟨after, before, n, rfl⟩ :=
      hvalue hcolon (h m (List.mem_of_find?_eq_some hfind) draft hm)
    exact ⟨key, after, before, n, rfl⟩
  · obtain ⟨mid', hcolon, hm⟩ := bind_eq_ok.1 hm
    obtain ⟨mid'', hskip, ⟨⟩⟩ := bind_eq_ok.1 hm
    obtain ⟨after, before, n, rfl⟩ := hvalue hcolon (exists_node_of_skip hskip)
    exact ⟨key, after, before, n, rfl⟩

/-- The members of an object, or those behind one of them, with the closing bracket. -/
theorem readMembers_eq_ok (h : TakesMembers members) {fuel : Nat} {isFirst : Bool}
    (hread : readMembers members fuel isFirst draft cs = .ok (draft', rest)) :
    ∃ (s : Space) (es : List (Entry Node)), cs = s.chars ++
      ((if isFirst then Node.renderEntries es else Node.renderMoreEntries es) ++ rest) := by
  induction fuel generalizing isFirst draft cs with
  | zero => cases hread
  | succ fuel ih =>
    -- one member, and the members behind it
    have hmember {cs : List Char} (hcs : (readMember members draft cs >>= fun p =>
          readMembers members fuel false p.1 p.2) = .ok (draft', rest)) (s : Space) :
        ∃ (e : Entry Node) (es : List (Entry Node)),
          s.chars ++ '"' :: cs = Node.renderEntry e ++ (Node.renderMoreEntries es ++ rest) := by
      obtain ⟨⟨d, mid⟩, hm, hrest⟩ := bind_eq_ok.1 hcs
      obtain ⟨key, after, before, n, rfl⟩ := readMember_eq_ok h hm
      obtain ⟨after', es, rfl⟩ := ih hrest
      refine ⟨⟨⟨s, key, after⟩, ⟨before, n, after'⟩⟩, es, ?_⟩
      simp [Node.renderEntry, Node.renderPadded]
    obtain ⟨s, hs⟩ := exists_space cs
    simp only [readMembers] at hread
    split at hread
    · cases hread
    · rename_i c cs' hcs
      rw [hs, hcs]
      split_ifs at hread with hclose hfirst hquote hcomma
      · cases hread
        refine ⟨s, [], ?_⟩
        rw [hclose]
        cases isFirst <;> rfl
      · obtain ⟨e, es, he⟩ := hmember hread .none
        refine ⟨s, e :: es, ?_⟩
        rw [hquote, if_pos hfirst, Node.renderEntries, List.append_assoc, ← he]
        rfl
      · split at hread
        · cases hread
        · rename_i cs'' hcs''
          obtain ⟨s', hs'⟩ := exists_space cs'
          obtain ⟨e, es, he⟩ := hmember hread s'
          refine ⟨s, e :: es, ?_⟩
          rw [hcomma, if_neg hfirst, Node.renderMoreEntries, List.cons_append, List.append_assoc,
            ← he, ← hcs'', ← hs']
        · cases hread
        · cases hread

theorem readListEnd_eq_ok (h : readListEnd cs = .ok r) : skipSpace cs = ']' :: r := by
  rw [readListEnd] at h
  split at h
  · cases h
  · rename_i hcs
    cases h
    exact hcs
  · split at h <;> cases h
  · cases h

/-- The values of a list, or those behind one of them, with the closing bracket. -/
theorem readValues_eq_ok (h : TakesMembers members) {isFirst : Bool}
    (hread : readValues members isFirst draft cs = .ok (draft', rest))
    (hend : readListEnd rest = .ok r) : ∃ (s : Space) (ps : List (Padded Node)), cs = s.chars ++
      ((if isFirst then Node.renderItems ps else Node.renderMoreItems ps) ++ r) := by
  induction members generalizing isFirst draft cs with
  | nil =>
    cases hread
    obtain ⟨s, hs⟩ := exists_space rest
    refine ⟨s, [], ?_⟩
    rw [hs, readListEnd_eq_ok hend]
    cases isFirst <;> rfl
  | cons m members ih =>
    -- the value of one member, and what stands behind it
    have hvalue {cs : List Char} (hcs : (m.read draft cs >>= fun p =>
          readValues members false p.1 p.2) = .ok (draft', rest)) :
        ∃ (n : Node) (after : Space) (ps : List (Padded Node)),
          skipSpace cs = n.render ++ (after.chars ++ (Node.renderMoreItems ps ++ r)) := by
      obtain ⟨⟨d, mid⟩, hm, hrest⟩ := bind_eq_ok.1 hcs
      obtain ⟨n, hn⟩ := h m (List.mem_cons_self ..) draft hm
      obtain ⟨after, ps, rfl⟩ := ih (fun m hm => h m (List.mem_cons_of_mem _ hm)) hrest
      exact ⟨n, after, ps, hn⟩
    obtain ⟨s, hs⟩ := exists_space cs
    simp only [readValues] at hread
    split at hread
    · cases hread
    · rename_i c cs' hcs
      split_ifs at hread with hclose hfirst hcomma
      · cases hread
        have hr := readListEnd_eq_ok hend
        rw [← hcs, skipSpace_skipSpace] at hr
        refine ⟨s, [], ?_⟩
        rw [hs, hr]
        cases isFirst <;> rfl
      · obtain ⟨n, after, ps, hn⟩ := hvalue hread
        rw [← hcs, skipSpace_skipSpace] at hn
        refine ⟨s, ⟨.none, n, after⟩ :: ps, ?_⟩
        rw [hs, hn, if_pos hfirst]
        simp [Node.renderItems, Node.renderPadded, Space.none]
      · split at hread
        · cases hread
        · cases hread
        · obtain ⟨n, after, ps, hn⟩ := hvalue hread
          obtain ⟨before, hbefore⟩ := exists_space cs'
          rw [skipSpace_skipSpace] at hn
          refine ⟨s, ⟨before, n, after⟩ :: ps, ?_⟩
          rw [hs, hcs, hcomma, hbefore, hn, if_neg hfirst]
          simp [Node.renderMoreItems, Node.renderPadded]

/-- A record is taken like any other value. -/
theorem takes {schema : Schema δ γ} (h : TakesMembers schema.members) : Takes schema.read := by
  intro cs record rest hread
  rw [read] at hread
  split at hread
  · cases hread
  · rename_i cs' hcs
    obtain ⟨⟨d, mid⟩, hmembers, hcomplete⟩ := bind_eq_ok.1 hread
    obtain ⟨inside, es, hes⟩ := readMembers_eq_ok h hmembers
    dsimp only at hcomplete
    split at hcomplete <;> cases hcomplete
    exact ⟨.object inside es, by rw [hcs, hes, Node.render]; simp⟩
  · rename_i cs' hcs
    obtain ⟨⟨d, mid⟩, hvalues, hcomplete⟩ := bind_eq_ok.1 hread
    dsimp only at hcomplete
    split at hcomplete
    · obtain ⟨r, hend, ⟨⟩⟩ := bind_eq_ok.1 hcomplete
      obtain ⟨inside, ps, hps⟩ := readValues_eq_ok h hvalues hend
      exact ⟨.list inside ps, by rw [hcs, hps, Node.render]; simp⟩
    · cases hcomplete
  · cases hread

/-- A text that holds a record is the text of a document. -/
theorem exists_document {schema : Schema δ γ} (h : TakesMembers schema.members) {record : γ}
    (hdecode : schema.decode cs = .ok record) : ∃ d : Document, d.render = cs := by
  obtain ⟨⟨a, rest⟩, hread, hend⟩ := bind_eq_ok.1 hdecode
  obtain ⟨n, hn⟩ := takes h hread
  obtain ⟨before, hbefore⟩ := exists_space cs
  obtain ⟨after, hafter⟩ := exists_space rest
  dsimp only at hend
  split at hend
  · rename_i hempty
    rw [List.isEmpty_iff.1 hempty, List.append_nil] at hafter
    exact ⟨⟨before, n, after⟩, by rw [hbefore, hn, hafter]; rfl⟩
  · cases hend

end Schema

/-! ## The readers of a configuration's values -/

theorem takes_string : Takes readString :=
  (takes_quoted _).bind fun h => by cases h; rfl

theorem takes_uint8 : Takes readUInt8 :=
  (takes_unsigned _ _).bind fun h => by cases h; rfl

theorem takes_uint16 : Takes readUInt16 :=
  (takes_unsigned _ _).bind fun h => by cases h; rfl

theorem takes_uint32 : Takes readUInt32 :=
  (takes_unsigned _ _).bind fun h => by cases h; rfl

theorem takes_uint64 : Takes readUInt64 :=
  (takes_unsigned _ _).bind fun h => by cases h; rfl

theorem takes_ipv4 : Takes readIpv4 :=
  (takes_quoted _).bind fun h => by
    dsimp only at h
    split at h <;> cases h
    rfl

theorem takes_address : Takes readAddress :=
  (takes_quoted _).bind fun h => by
    dsimp only at h
    split at h <;> cases h
    rfl

end TunnelRelay.Json
