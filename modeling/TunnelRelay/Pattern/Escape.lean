import TunnelRelay.Pattern.Expr
import TunnelRelay.Pattern.Flags
/-!
# Escapes

A backslash takes the meaning away from a mark, and gives a letter one. The sets of digits, blanks
and word characters, and the boundaries of words, are known for ASCII only: a pattern that asks for
those of all scripts is refused, and so is one that asks for all bytes beyond such a set.
-/

namespace TunnelRelay.Pattern

/-- What an escape stands for. -/
inductive Atom where
  | char (c : Char)
  | anchor (a : Anchor)
  | set (s : CharSet)

/-- The value of a hexadecimal digit. -/
def hexDigit? (c : Char) : Option Nat :=
  if c.isDigit then some (c.toNat - 0x30)
  else if 'a' ≤ c ∧ c ≤ 'f' then some (c.toNat - 0x57)
  else if 'A' ≤ c ∧ c ≤ 'F' then some (c.toNat - 0x37)
  else none

/-- Reads a number of hexadecimal digits, after those that are `n`. -/
def readHex (f : Flags) : Nat → Nat → List Char → Option (Nat × List Char)
  | 0, n, cs => some (n, cs)
  | _ + 1, _, [] => none
  | digits + 1, n, c :: cs =>
    match hexDigit? c with
    | none => none
    | some d => readHex f digits (n * 16 + d) (f.skip cs)

/-- Reads the number of a character. -/
def readNumbered (f : Flags) (digits : Nat) (cs : List Char) : Option (Atom × List Char) := do
  let (n, cs) ← readHex f digits 0 (f.skip cs)
  if n.isValidChar then pure (.char (Char.ofNat n), cs) else none

/-- Whether a backslash in front of a character leaves the character as it is: ASCII characters
other than letters, digits and the angles. -/
def isEscapable (c : Char) : Bool :=
  c.toNat < 0x80 && !c.isAlphanum && c != '<' && c != '>'

/-- The sets and the boundaries that are known for ASCII. -/
def asciiAtom? : Char → Option Atom
  | 'd' => some (.set .digits)
  | 's' => some (.set .blanks)
  | 'w' => some (.set .wordChars)
  | 'b' => some (.anchor .wordBoundary)
  | 'B' => some (.anchor .noWordBoundary)
  | '<' => some (.anchor .wordStart)
  | '>' => some (.anchor .wordEnd)
  | _ => none

/-- The atoms that are the same in all modes. -/
def atom? : Char → Option Atom
  | 'a' => some (.char '\x07')
  | 'f' => some (.char '\x0C')
  | 't' => some (.char '\t')
  | 'n' => some (.char '\n')
  | 'r' => some (.char '\r')
  | 'v' => some (.char '\x0B')
  | 'A' => some (.anchor .textStart)
  | 'z' => some (.anchor .textEnd)
  | c => if isEscapable c then some (.char c) else none

/-- Reads what follows a backslash. Without Unicode two digits are a byte, which has to be
ASCII. -/
def readEscape (f : Flags) : List Char → Option (Atom × List Char)
  | [] => none
  | 'x' :: cs => do
    let (atom, cs) ← readNumbered f 2 cs
    match atom with
    | .char c => if !f.isUnicode && 0x7F < c.toNat then none else pure (atom, cs)
    | _ => none
  | 'u' :: cs => readNumbered f 4 cs
  | 'U' :: cs => readNumbered f 8 cs
  | c :: cs =>
    match asciiAtom? c with
    | some atom => if f.isUnicode then none else some (atom, cs)
    | none => (atom? c).map (·, cs)

end TunnelRelay.Pattern
