import TunnelRelay.Json.Error
/-!
# Tokens of JSON

Readers take the characters ahead and give a value with the characters that are left, or the
reason of the refusal. A text is read one character at a time by a small machine; a number is read
with the arithmetic of 64-bit integers, and with that of the binary format from the first digit,
point or exponent on that does not fit.
-/

namespace TunnelRelay.Json

open TunnelRelay.Decimal

/-- Reads a value from the front of a text. -/
abbrev Reader (α : Type) := List Char → Except Error (α × List Char)

/-- The four insignificant characters. -/
def isSpace (c : Char) : Bool := c == ' ' || c == '\n' || c == '\t' || c == '\r'

/-- The text from its first significant character on. -/
def skipSpace (cs : List Char) : List Char := cs.dropWhile isSpace

/-- Reads the rest of a literal whose first letter has been read. -/
def readLiteral : List Char → List Char → Except Error (List Char)
  | [], cs => .ok cs
  | _ :: _, [] => .error .endInValue
  | e :: es, c :: cs => if c = e then readLiteral es cs else .error .expectedLiteral

/-- The value of a hexadecimal digit. -/
def hexValue? (c : Char) : Option Nat :=
  if '0' ≤ c ∧ c ≤ '9' then some (c.toNat - 0x30)
  else if 'a' ≤ c ∧ c ≤ 'f' then some (c.toNat - 0x57)
  else if 'A' ≤ c ∧ c ≤ 'F' then some (c.toNat - 0x37)
  else none

/-- The character that a short escape stands for. -/
def shortEscape? (c : Char) : Option Char :=
  if c = '"' ∨ c = '\\' ∨ c = '/' then some c
  else if c = 'b' then some '\x08'
  else if c = 'f' then some '\x0c'
  else if c = 'n' then some '\n'
  else if c = 'r' then some '\r'
  else if c = 't' then some '\t'
  else none

/-- Where the reader of a text stands between two characters. -/
inductive TextStand where
  | plain
  | escape
  /-- In the digits of an escape: the bytes read so far, the number they give if all of them are
  digits, and the leading surrogate that this escape is to complete. -/
  | hex (bytes : Nat) (value : Option Nat) (lead : Option Nat)
  /-- After a leading surrogate. -/
  | paired (lead : Nat)
  /-- After a leading surrogate and a backslash. -/
  | pairedEscape (lead : Nat)

/-- What a complete escape gives: where the reader stands, and the character if there is one. -/
def endEscape (n : Nat) : Option Nat → Except Error (TextStand × Option Char)
  | none =>
    if 0xDC00 ≤ n ∧ n ≤ 0xDFFF then .error .loneSurrogate
    else if 0xD800 ≤ n ∧ n ≤ 0xDBFF then .ok (.paired n, none)
    else .ok (.plain, some (Char.ofNat n))
  | some lead =>
    if 0xDC00 ≤ n ∧ n ≤ 0xDFFF then
      .ok (.plain, some (Char.ofNat ((lead - 0xD800) * 0x400 + (n - 0xDC00) + 0x10000)))
    else .error .loneSurrogate

/-- One more character of the digits of an escape. An escape takes four bytes. -/
def hexStep (bytes : Nat) (value lead : Option Nat) (c : Char) :
    Except Error (TextStand × Option Char) :=
  let bytes := bytes + c.utf8Size
  let value := do pure ((← value) * 16 + (← hexValue? c))
  if bytes < 4 then .ok (.hex bytes value lead, none)
  else match value with
    | some n => endEscape n lead
    | none => .error .invalidEscape

/-- Reads a text from behind its opening quote through its closing quote. `taken` is what has been
read of it, backwards. -/
def textFrom : TextStand → List Char → Reader (List Char)
  | _, _, [] => .error .endInText
  | .plain, taken, c :: cs =>
    if c = '"' then .ok (taken.reverse, cs)
    else if c = '\\' then textFrom .escape taken cs
    else if c.toNat < 0x20 then .error .controlInText
    else textFrom .plain (c :: taken) cs
  | .escape, taken, c :: cs =>
    if c = 'u' then textFrom (.hex 0 (some 0) none) taken cs
    else match shortEscape? c with
      | some d => textFrom .plain (d :: taken) cs
      | none => .error .invalidEscape
  | .hex bytes value lead, taken, c :: cs =>
    match hexStep bytes value lead c with
    | .error e => .error e
    | .ok (stand, d) => textFrom stand (d.toList ++ taken) cs
  | .paired lead, taken, c :: cs =>
    if c = '\\' then textFrom (.pairedEscape lead) taken cs else .error .halfPair
  | .pairedEscape lead, taken, c :: cs =>
    if c = 'u' then textFrom (.hex 0 (some 0) (some lead)) taken cs else .error .halfPair

/-- Reads a text from behind its opening quote. -/
def readText : Reader (List Char) := textFrom .plain []

/-- The greatest integer of 64 bits. -/
def greatestInteger : Nat := UInt64.size - 1

/-- The value of a decimal digit. -/
def digitValue (c : Char) : Nat := c.toNat - 0x30

/-- Digits before the point, taken while the number fits in 64 bits: the number and how many
digits were left out. -/
def integerDigits : Nat → Nat → List Char → Nat × Nat
  | n, dropped, [] => (n, dropped)
  | n, dropped, c :: cs =>
    let m := n * 10 + digitValue c
    if 0 < dropped ∨ greatestInteger < m then integerDigits n (dropped + 1) cs
    else integerDigits m 0 cs

/-- Digits behind the point, taken while the number fits in 64 bits: the number and how many
digits were taken. -/
def fractionDigits : Nat → Nat → List Char → Nat × Nat
  | n, taken, [] => (n, taken)
  | n, taken, c :: cs =>
    let m := n * 10 + digitValue c
    if greatestInteger < m then (n, taken) else fractionDigits m (taken + 1) cs

/-- The greatest exponent that is read exactly. -/
def greatestExponent : Nat := UInt32.size / 2 - 1

/-- The floating point number of a significand and an exponent. -/
def floatNumber (negative : Bool) (significand : Nat) (exponent : Int) : Except Error Number :=
  match Binary64.ofScientific? significand exponent with
  | some x => .ok (.float negative x)
  | none => .error .numberOutOfRange

/-- Reads an exponent from behind its letter. -/
def readExponent (negative : Bool) (significand : Nat) (exponent : Int) : Reader Number := fun cs =>
  let (down, cs) : Bool × List Char := match cs with
    | '+' :: rest => (false, rest)
    | '-' :: rest => (true, rest)
    | _ => (false, cs)
  match cs with
  | [] => .error .endInValue
  | c :: _ =>
    if c.isDigit then
      let digits := cs.takeWhile Char.isDigit
      let n := digits.foldl (fun n d => n * 10 + digitValue d) 0
      if greatestExponent < n ∧ significand ≠ 0 ∧ down = false then .error .numberOutOfRange
      else do
        let x ← floatNumber negative significand (if down then exponent - n else exponent + n)
        pure (x, cs.dropWhile Char.isDigit)
    else .error .invalidNumber

/-- Reads a fraction from behind its point. -/
def readFraction (negative : Bool) (significand : Nat) (exponent : Int) : Reader Number := fun cs =>
  match cs with
  | [] => .error .endInValue
  | c :: _ =>
    if c.isDigit then
      let (n, taken) := fractionDigits significand 0 (cs.takeWhile Char.isDigit)
      let exponent := exponent - taken
      match cs.dropWhile Char.isDigit with
      | 'e' :: rest => readExponent negative n exponent rest
      | 'E' :: rest => readExponent negative n exponent rest
      | rest => do pure (← floatNumber negative n exponent, rest)
    else .error .invalidNumber

/-- The number of an integer without point and exponent. A negative zero and what lies beyond 64
bits are floating point numbers. -/
def integerNumber (negative : Bool) (n dropped : Nat) : Except Error Number :=
  if 0 < dropped then floatNumber negative n dropped
  else if negative then
    if 0 < n ∧ n ≤ UInt64.size / 2 then .ok (.signed (-n)) else floatNumber true n 0
  else .ok (.unsigned n)

/-- Reads a number from behind its sign. -/
def readNumber (negative : Bool) : Reader Number := fun cs =>
  match cs with
  | [] => .error .endInValue
  | c :: rest =>
    if c.isDigit then
      let digits := cs.takeWhile Char.isDigit
      if c = '0' ∧ (rest.takeWhile Char.isDigit).length ≠ 0 then .error .invalidNumber
      else
        let (n, dropped) := integerDigits 0 0 digits
        match cs.dropWhile Char.isDigit with
        | '.' :: rest => readFraction negative n dropped rest
        | 'e' :: rest => readExponent negative n dropped rest
        | 'E' :: rest => readExponent negative n dropped rest
        | rest => do pure (← integerNumber negative n dropped, rest)
    else .error .invalidNumber

/-- The refusal of a value that is not of the kind asked for. Scalars are read first, so that an
error inside them comes before the wrong kind; of lists and objects the bracket is enough. -/
def wrongKind (expected : String) : List Char → Error
  | [] => .endInValue
  | c :: cs =>
    let literal (letters : List Char) (found : Found) : Error :=
      match readLiteral letters cs with
      | .error e => e
      | .ok _ => .wrongKind found expected
    let number (negative : Bool) (cs : List Char) : Error :=
      match readNumber negative cs with
      | .error e => e
      | .ok (n, _) => .wrongKind (.number n) expected
    if c = 'n' then literal ['u', 'l', 'l'] .null
    else if c = 't' then literal ['r', 'u', 'e'] (.bool true)
    else if c = 'f' then literal ['a', 'l', 's', 'e'] (.bool false)
    else if c = '-' then number true cs
    else if c.isDigit then number false (c :: cs)
    else if c = '"' then
      match readText cs with
      | .error e => e
      | .ok (t, _) => .wrongKind (.text t) expected
    else if c = '[' then .wrongKind .list expected
    else if c = '{' then .wrongKind .object expected
    else .expectedValue

/-- Reads an integer between 0 and `greatest`. -/
def readUnsigned (greatest : Nat) (expected : String) : Reader Nat := fun cs =>
  let checked : Number × List Char → Except Error (Nat × List Char)
    | (.unsigned n, rest) =>
      if n ≤ greatest then .ok (n, rest) else .error (.outOfRange (.unsigned n) expected)
    | (.signed n, _) => .error (.outOfRange (.signed n) expected)
    | (n, _) => .error (.wrongKind (.number n) expected)
  match skipSpace cs with
  | [] => .error .endInValue
  | c :: rest =>
    if c = '-' then readNumber true rest >>= checked
    else if c.isDigit then readNumber false (c :: rest) >>= checked
    else .error (wrongKind expected (c :: rest))

/-- Reads a text with its quotes. -/
def readQuoted (expected : String) : Reader (List Char) := fun cs =>
  match skipSpace cs with
  | [] => .error .endInValue
  | '"' :: rest => readText rest
  | cs => .error (wrongKind expected cs)

/-- Reads a null as nothing and whatever else there is as something. -/
def readOptional {α : Type} (read : Reader α) : Reader (Option α) := fun cs =>
  match skipSpace cs with
  | 'n' :: rest => do pure (none, ← readLiteral ['u', 'l', 'l'] rest)
  | cs => do
    let (a, rest) ← read cs
    pure (some a, rest)

end TunnelRelay.Json
