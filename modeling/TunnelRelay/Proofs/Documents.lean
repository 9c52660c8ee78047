import Mathlib.Tactic
import TunnelRelay.Json.Record
/-!
# JSON texts as they are written

A `Node` is a JSON value as it stands in a text: the digits of its numbers, the escapes of its
texts, the order and the repeats of its members, and all its insignificant characters. `render`
gives the characters. The readers of texts and numbers are shown to give what a `Quoted` and a
`Numeral` say, with what stands behind them left over.
-/

namespace TunnelRelay.Json

/-! ## Texts -/

/-- A hexadecimal digit of either case. -/
structure HexDigit where
  char : Char
  value : Nat
  isValue : hexValue? char = some value

/-- One element of a text as it is written. -/
inductive Piece where
  /-- A character that stands for itself. -/
  | plain (c : Char) (isPlain : c ≠ '"' ∧ c ≠ '\\' ∧ 0x20 ≤ c.toNat)
  /-- A backslash with a letter. -/
  | short (letter c : Char) (isShort : shortEscape? letter = some c)
  /-- A UTF-16 unit by its number. -/
  | unit (a b c d : HexDigit)

namespace Piece

def chars : Piece → List Char
  | .plain c _ => [c]
  | .short letter _ _ => ['\\', letter]
  | .unit a b c d => ['\\', 'u', a.char, b.char, c.char, d.char]

/-- The number that four digits write. -/
def number (a b c d : HexDigit) : Nat := ((a.value * 16 + b.value) * 16 + c.value) * 16 + d.value

end Piece

/-- A text as it is written, without its quotes. -/
abbrev Quoted := List Piece

namespace Quoted

def chars (q : Quoted) : List Char := q.flatMap Piece.chars

/-- The text that is meant. A leading surrogate needs a trailing one behind it. -/
def text : Quoted → Except Error (List Char)
  | [] => .ok []
  | .plain c _ :: q => (text q).map (c :: ·)
  | .short _ c _ :: q => (text q).map (c :: ·)
  | .unit a b c d :: q =>
    let n := Piece.number a b c d
    if 0xDC00 ≤ n ∧ n ≤ 0xDFFF then .error .loneSurrogate
    else if 0xD800 ≤ n ∧ n ≤ 0xDBFF then
      match q with
      | .unit a b c d :: q =>
        let m := Piece.number a b c d
        if 0xDC00 ≤ m ∧ m ≤ 0xDFFF then
          (text q).map (Char.ofNat ((n - 0xD800) * 0x400 + (m - 0xDC00) + 0x10000) :: ·)
        else .error .loneSurrogate
      | _ => .error .halfPair
    else (text q).map (Char.ofNat n :: ·)

end Quoted

theorem HexDigit.utf8Size (d : HexDigit) : d.char.utf8Size = 1 := by
  obtain ⟨c, v, h⟩ := d
  rw [Char.utf8Size_eq_one_iff, UInt32.le_iff_toNat_le]
  unfold hexValue? at h
  simp only [Char.le_def, UInt32.le_iff_toNat_le] at h
  split_ifs at h with h₁ h₂ h₃
  · exact h₁.2.trans (by decide)
  · exact h₂.2.trans (by decide)
  · exact h₃.2.trans (by decide)

/-- Four digits give the number to the end of the escape. -/
theorem textFrom_unit (a b c d : HexDigit) (lead : Option Nat) (taken cs : List Char) :
    textFrom (.hex 0 (some 0) lead) taken (a.char :: b.char :: c.char :: d.char :: cs) =
      match endEscape (Piece.number a b c d) lead with
      | .error e => .error e
      | .ok (stand, ch) => textFrom stand (ch.toList ++ taken) cs := by
  rcases he : endEscape (Piece.number a b c d) lead with e | ⟨stand, ch⟩ <;>
    rw [Piece.number] at he <;>
    simp only [textFrom, hexStep, HexDigit.utf8Size, HexDigit.isValue, Option.pure_def,
      Option.bind_eq_bind, Option.bind_some, Nat.reduceAdd, Nat.reduceLT, ↓reduceIte,
      Option.toList_none, List.nil_append, Nat.zero_mul, Nat.zero_add, he]

theorem ne_u_of_shortEscape? {letter c : Char} (h : shortEscape? letter = some c) :
    letter ≠ 'u' := by
  rintro rfl
  simp [shortEscape?] at h

theorem textFrom_backslash (taken cs : List Char) :
    textFrom .plain taken ('\\' :: 'u' :: cs) = textFrom (.hex 0 (some 0) none) taken cs := rfl

theorem textFrom_paired_backslash (lead : Nat) (taken cs : List Char) :
    textFrom (.paired lead) taken ('\\' :: 'u' :: cs) =
      textFrom (.hex 0 (some 0) (some lead)) taken cs := rfl

/-- Only a second unit completes a leading surrogate. -/
theorem textFrom_paired {q : Quoted} (hq : ∀ a b c d q', q = .unit a b c d :: q' → False)
    {lead : Nat} {taken rest : List Char} :
    textFrom (.paired lead) taken (q.chars ++ '"' :: rest) = .error .halfPair := by
  match q with
  | [] => rfl
  | .plain c h :: q => simp [Quoted.chars, Piece.chars, textFrom, h.2.1]
  | .short letter c h :: q => simp [Quoted.chars, Piece.chars, textFrom, ne_u_of_shortEscape? h]
  | .unit a b c d :: q => exact (hq a b c d q rfl).elim

theorem textFrom_chars (q : Quoted) (taken rest : List Char) :
    textFrom .plain taken (q.chars ++ '"' :: rest) =
      q.text.map fun t => (taken.reverse ++ t, rest) := by
  unfold Quoted.chars
  fun_induction Quoted.text q generalizing taken with
  | case1 => simp [textFrom, Except.map]
  | case2 c h q ih =>
    simp only [List.flatMap_cons, Piece.chars, List.cons_append, List.nil_append, textFrom]
    rw [if_neg h.1, if_neg h.2.1, if_neg (by omega), ih]
    cases Quoted.text q <;> simp [Except.map]
  | case3 letter c h q ih =>
    simp only [List.flatMap_cons, Piece.chars, List.cons_append, List.nil_append, textFrom]
    simp only [ne_u_of_shortEscape? h, h, if_true, if_false, ih]
    cases Quoted.text q <;> simp [Except.map]
  | case4 a b c d q n hn =>
    simp only [List.flatMap_cons, Piece.chars, List.cons_append, List.nil_append]
    rw [textFrom_backslash, textFrom_unit, endEscape, if_pos hn]
    rfl
  | case5 a b c d n hn hn' a' b' c' d' q m hm ih =>
    simp only [List.flatMap_cons, Piece.chars, List.cons_append, List.nil_append]
    rw [textFrom_backslash, textFrom_unit, endEscape, if_neg hn, if_pos hn']
    simp only [Option.toList_none, List.nil_append]
    rw [textFrom_paired_backslash, textFrom_unit, endEscape, if_pos hm]
    simp only [Option.toList_some, List.cons_append, List.nil_append, ih]
    cases Quoted.text q <;> simp [Except.map, n, m]
  | case6 a b c d n hn hn' a' b' c' d' q m hm =>
    simp only [List.flatMap_cons, Piece.chars, List.cons_append, List.nil_append]
    rw [textFrom_backslash, textFrom_unit, endEscape, if_neg hn, if_pos hn']
    simp only [Option.toList_none, List.nil_append]
    rw [textFrom_paired_backslash, textFrom_unit, endEscape, if_neg hm]
    rfl
  | case7 a b c d q n hn hn' hq =>
    simp only [List.flatMap_cons, Piece.chars, List.cons_append, List.nil_append]
    rw [textFrom_backslash, textFrom_unit, endEscape, if_neg hn, if_pos hn']
    exact textFrom_paired hq
  | case8 a b c d q n hn hn' ih =>
    simp only [List.flatMap_cons, Piece.chars, List.cons_append, List.nil_append]
    rw [textFrom_backslash, textFrom_unit, endEscape, if_neg hn, if_neg hn']
    simp only [Option.toList_some, List.cons_append, List.nil_append, ih]
    cases Quoted.text q <;> simp [Except.map, n]

/-! ## Numbers -/

/-- One digit or more. -/
structure Digits where
  chars : List Char
  ne_nil : chars ≠ []
  isDigit : ∀ c ∈ chars, c.isDigit = true

/-- The exponent of a number as it is written. -/
structure Exponent where
  isCapital : Bool
  /-- Whether there is a sign, and whether it is a minus. -/
  sign : Option Bool
  digits : Digits

/-- A number as it is written. -/
structure Numeral where
  isNegative : Bool
  whole : Digits
  /-- No zero stands in front. -/
  eq_zero : whole.chars.head? = some '0' → whole.chars = ['0']
  fraction : Option Digits
  exponent : Option Exponent

namespace Exponent

def signChars (e : Exponent) : List Char :=
  match e.sign with
  | none => []
  | some false => ['+']
  | some true => ['-']

def chars (e : Exponent) : List Char :=
  (if e.isCapital then 'E' else 'e') :: (e.signChars ++ e.digits.chars)

/-- The number with this exponent behind a significand and the exponent that its digits give. -/
def number (e : Exponent) (negative : Bool) (significand : Nat) (exponent : Int) :
    Except Error Number :=
  let n := e.digits.chars.foldl (fun n d => n * 10 + digitValue d) 0
  if e.sign = some true then floatNumber negative significand (exponent - n)
  else if greatestExponent < n ∧ significand ≠ 0 then .error .numberOutOfRange
  else floatNumber negative significand (exponent + n)

end Exponent

namespace Numeral

/-- What stands behind the digits before the point. -/
def tail (n : Numeral) : List Char :=
  n.fraction.elim [] (fun d => '.' :: d.chars) ++ n.exponent.elim [] Exponent.chars

/-- The characters behind the sign. -/
def magnitude (n : Numeral) : List Char := n.whole.chars ++ n.tail

def chars (n : Numeral) : List Char := if n.isNegative then '-' :: n.magnitude else n.magnitude

/-- What the number is read as. -/
def number (n : Numeral) : Except Error Number :=
  let (m, dropped) := integerDigits 0 0 n.whole.chars
  match n.fraction, n.exponent with
  | none, none => integerNumber n.isNegative m dropped
  | none, some e => e.number n.isNegative m dropped
  | some f, none =>
    let (m, taken) := fractionDigits m 0 f.chars
    floatNumber n.isNegative m ((dropped : Int) - taken)
  | some f, some e =>
    let (m, taken) := fractionDigits m 0 f.chars
    e.number n.isNegative m ((dropped : Int) - taken)

end Numeral

/-- What can follow a value: nothing that goes on a number. -/
def EndsNumber (rest : List Char) : Prop :=
  ∀ c ∈ rest.head?, c.isDigit = false ∧ c ≠ '.' ∧ c ≠ 'e' ∧ c ≠ 'E'

theorem Digits.scan (d : Digits) {rest : List Char} (hr : ∀ c ∈ rest.head?, c.isDigit = false) :
    (d.chars ++ rest).takeWhile Char.isDigit = d.chars ∧
      (d.chars ++ rest).dropWhile Char.isDigit = rest := by
  rw [List.takeWhile_append_of_pos d.isDigit, List.dropWhile_append_of_pos d.isDigit]
  cases rest with
  | nil => simp
  | cons c rest => simp [hr c rfl]

theorem Digits.eq_cons (d : Digits) : ∃ c cs, d.chars = c :: cs ∧ c.isDigit = true := by
  obtain ⟨cs, hn, hd⟩ := d
  cases cs with
  | nil => exact absurd rfl hn
  | cons c cs => exact ⟨c, cs, rfl, hd c (List.mem_cons_self ..)⟩

/-- A digit is not taken for a sign. -/
theorem readExponent_unsigned {c : Char} (hc : c.isDigit = true) (negative : Bool)
    (significand : Nat) (exponent : Int) (cs : List Char) :
    readExponent negative significand exponent (c :: cs) =
      readExponent negative significand exponent ('+' :: c :: cs) := by
  have hp : c ≠ '+' := by rintro rfl; simp at hc
  have hm : c ≠ '-' := by rintro rfl; simp at hc
  unfold readExponent
  split
  rename_i down cs' h
  split at h
  · simp_all
  · simp_all
  · cases h
    rfl

/-- A value and what follows it. -/
theorem bind_pure_pair {α : Type} (x : Except Error α) (rest : List Char) :
    (x >>= fun a => pure (a, rest)) = x.map (·, rest) := by
  cases x <;> rfl

theorem readExponent_chars (e : Exponent) (negative : Bool) (significand : Nat) (exponent : Int)
    {rest : List Char} (hr : EndsNumber rest) :
    readExponent negative significand exponent (e.signChars ++ (e.digits.chars ++ rest)) =
      (e.number negative significand exponent).map (·, rest) := by
  obtain ⟨capital, sign, d⟩ := e
  obtain ⟨ht, hd⟩ := d.scan (fun c hc => (hr c hc).1)
  obtain ⟨c, cs, hc, hcd⟩ := d.eq_cons
  have hcons : d.chars ++ rest = c :: (cs ++ rest) := by rw [hc]; rfl
  rw [hcons] at ht hd
  have hplus : readExponent negative significand exponent ('+' :: c :: (cs ++ rest)) =
      (Exponent.number ⟨capital, some false, d⟩ negative significand exponent).map (·, rest) := by
    simp only [Exponent.number, readExponent, hcd, ht, hd, if_true, and_true, bind_pure_pair,
      Bool.false_eq_true, if_false]
    rw [if_neg (show ¬some false = some true by simp)]
    split_ifs <;> rfl
  have hminus : readExponent negative significand exponent ('-' :: c :: (cs ++ rest)) =
      (Exponent.number ⟨capital, some true, d⟩ negative significand exponent).map (·, rest) := by
    simp only [Exponent.number, readExponent, hcd, ht, hd, if_true, bind_pure_pair]
    rw [if_neg (by simp)]
  rw [hcons]
  match sign with
  | none => exact (readExponent_unsigned hcd ..).trans hplus
  | some false => exact hplus
  | some true => exact hminus

/-- A fraction, with what stands behind it. -/
theorem readFraction_chars (d : Digits) (exponent? : Option Exponent) (negative : Bool)
    (significand : Nat) (exponent : Int) {rest : List Char} (hr : EndsNumber rest) :
    readFraction negative significand exponent
        (d.chars ++ (exponent?.elim [] Exponent.chars ++ rest)) =
      (let (m, taken) := fractionDigits significand 0 d.chars
      match exponent? with
      | none => floatNumber negative m (exponent - taken)
      | some e => e.number negative m (exponent - taken)).map (·, rest) := by
  obtain ⟨c, cs, hc, hcd⟩ := d.eq_cons
  cases exponent? with
  | none =>
    obtain ⟨ht, hd⟩ := d.scan (fun c hc => (hr c hc).1)
    have hcons : d.chars ++ rest = c :: (cs ++ rest) := by rw [hc]; rfl
    simp only [Option.elim_none, List.nil_append, readFraction, hcons, hcd, if_true]
    rw [← hcons, ht, hd]
    split
    · rename_i more; exact absurd rfl (hr 'e' rfl).2.2.1
    · rename_i more; exact absurd rfl (hr 'E' rfl).2.2.2
    · cases floatNumber negative _ _ <;> rfl
  | some e =>
    have hletter : ∀ c ∈ (e.chars ++ rest).head?, c.isDigit = false := by
      cases hcap : e.isCapital <;> simp [Exponent.chars, hcap]
    obtain ⟨ht, hd⟩ := d.scan hletter
    have hcons : d.chars ++ (e.chars ++ rest) = c :: (cs ++ (e.chars ++ rest)) := by rw [hc]; rfl
    simp only [Option.elim_some, readFraction, hcons, hcd, if_true]
    rw [← hcons, ht, hd]
    have := readExponent_chars e negative (fractionDigits significand 0 d.chars).1
      (exponent - (fractionDigits significand 0 d.chars).2) hr
    cases hcap : e.isCapital <;> simpa [Exponent.chars, hcap] using this

/-- The digits before the point, with what stands behind them. -/
theorem readNumber_whole (n : Numeral) (tail : List Char) :
    (∀ c ∈ tail.head?, c.isDigit = false) → readNumber n.isNegative (n.whole.chars ++ tail) =
      (let (m, dropped) := integerDigits 0 0 n.whole.chars
      match tail with
      | '.' :: rest => readFraction n.isNegative m dropped rest
      | 'e' :: rest => readExponent n.isNegative m dropped rest
      | 'E' :: rest => readExponent n.isNegative m dropped rest
      | rest => do pure (← integerNumber n.isNegative m dropped, rest)) := by
  intro htail
  obtain ⟨c, cs, hc, hcd⟩ := n.whole.eq_cons
  obtain ⟨ht, hd⟩ := n.whole.scan htail
  have hcons : n.whole.chars ++ tail = c :: (cs ++ tail) := by rw [hc]; rfl
  have hzero : ¬(c = '0' ∧ ((cs ++ tail).takeWhile Char.isDigit).length ≠ 0) := by
    rintro ⟨rfl, hne⟩
    have hz := n.eq_zero (by rw [hc]; rfl)
    rw [hc, List.cons.injEq] at hz
    rw [hcons, List.takeWhile_cons_of_pos hcd, hc, hz.2, List.cons.injEq] at ht
    exact hne (by rw [hz.2, ht.2]; rfl)
  simp only [readNumber, hcons, hcd, if_true, if_neg hzero]
  rewrite [← hcons, ht, hd]
  rfl

/-- A number is read as what it says, whatever follows. -/
theorem readNumber_magnitude (n : Numeral) {rest : List Char} (hr : EndsNumber rest) :
    readNumber n.isNegative (n.magnitude ++ rest) = n.number.map (·, rest) := by
  have hnot : ∀ c ∈ (n.tail ++ rest).head?, c.isDigit = false := by
    cases hf : n.fraction with
    | some d => simp [Numeral.tail, hf]
    | none =>
      cases he : n.exponent with
      | some e => cases hcap : e.isCapital <;> simp [Numeral.tail, hf, he, Exponent.chars, hcap]
      | none =>
        simp only [Numeral.tail, hf, he, Option.elim_none, List.nil_append]
        exact fun c hc => (hr c hc).1
  rw [Numeral.magnitude, List.append_assoc, readNumber_whole n _ hnot]
  cases hf : n.fraction with
  | some d =>
    have := readFraction_chars d n.exponent n.isNegative (integerDigits 0 0 n.whole.chars).1
      (integerDigits 0 0 n.whole.chars).2 hr
    simp only [Numeral.tail, Numeral.number, hf, Option.elim_some, List.cons_append,
      List.append_assoc, this]
    cases n.exponent <;> rfl
  | none =>
    cases he : n.exponent with
    | some e =>
      have := readExponent_chars e n.isNegative (integerDigits 0 0 n.whole.chars).1
        (integerDigits 0 0 n.whole.chars).2 hr
      cases hcap : e.isCapital <;>
        simpa [Numeral.tail, Numeral.number, hf, he, Exponent.chars, hcap] using this
    | none =>
      simp only [Numeral.tail, Numeral.number, hf, he, Option.elim_none, List.nil_append]
      split
      · exact absurd rfl (hr '.' rfl).2.1
      · exact absurd rfl (hr 'e' rfl).2.2.1
      · exact absurd rfl (hr 'E' rfl).2.2.2
      · exact bind_pure_pair _ _

/-! ## Values -/

/-- Insignificant characters. -/
structure Space where
  chars : List Char
  isSpace : ∀ c ∈ chars, Json.isSpace c = true

/-- No insignificant characters. -/
def Space.none : Space := ⟨[], by simp⟩

/-- Something between insignificant characters. -/
structure Padded (α : Type) where
  before : Space
  core : α
  after : Space

/-- A member of an object: its key, the colon and its value. -/
structure Entry (ν : Type) where
  key : Padded Quoted
  value : Padded ν

/-- A value as it is written. -/
inductive Node where
  | null
  | bool (b : Bool)
  | number (n : Numeral)
  | text (q : Quoted)
  | list (inside : Space) (items : List (Padded Node))
  | object (inside : Space) (entries : List (Entry Node))

namespace Node

mutual

/-- The characters of a value. -/
def render : Node → List Char
  | .null => ['n', 'u', 'l', 'l']
  | .bool true => ['t', 'r', 'u', 'e']
  | .bool false => ['f', 'a', 'l', 's', 'e']
  | .number n => n.chars
  | .text q => '"' :: (q.chars ++ ['"'])
  | .list inside items => '[' :: (inside.chars ++ renderItems items)
  | .object inside entries => '{' :: (inside.chars ++ renderEntries entries)

/-- A value and the insignificant characters around it. -/
def renderPadded : Padded Node → List Char
  | ⟨before, n, after⟩ => before.chars ++ (n.render ++ after.chars)

/-- A member of an object. -/
def renderEntry : Entry Node → List Char
  | ⟨key, value⟩ =>
    key.before.chars ++ ('"' :: (key.core.chars ++ ('"' :: (key.after.chars ++
      (':' :: renderPadded value)))))

/-- The values of a list and its closing bracket. -/
def renderItems : List (Padded Node) → List Char
  | [] => [']']
  | p :: ps => renderPadded p ++ renderMoreItems ps

/-- What stands behind a value of a list. -/
def renderMoreItems : List (Padded Node) → List Char
  | [] => [']']
  | p :: ps => ',' :: (renderPadded p ++ renderMoreItems ps)

/-- The members of an object and its closing bracket. -/
def renderEntries : List (Entry Node) → List Char
  | [] => ['}']
  | e :: es => renderEntry e ++ renderMoreEntries es

/-- What stands behind a member of an object. -/
def renderMoreEntries : List (Entry Node) → List Char
  | [] => ['}']
  | e :: es => ',' :: (renderEntry e ++ renderMoreEntries es)

end

mutual

/-- The value without insignificant characters. -/
def bare : Node → Node
  | .null => .null
  | .bool b => .bool b
  | .number n => .number n
  | .text q => .text q
  | .list _ items => .list .none (bareItems items)
  | .object _ entries => .object .none (bareEntries entries)

def barePadded : Padded Node → Padded Node
  | ⟨_, n, _⟩ => ⟨.none, n.bare, .none⟩

def bareEntry : Entry Node → Entry Node
  | ⟨⟨_, key, _⟩, value⟩ => ⟨⟨.none, key, .none⟩, barePadded value⟩

def bareItems : List (Padded Node) → List (Padded Node)
  | [] => []
  | p :: ps => barePadded p :: bareItems ps

def bareEntries : List (Entry Node) → List (Entry Node)
  | [] => []
  | e :: es => bareEntry e :: bareEntries es

end

end Node

/-- A whole text that holds one value. -/
abbrev Document := Padded Node

/-- The characters of a text. -/
def Document.render (d : Document) : List Char := Node.renderPadded d

end TunnelRelay.Json
