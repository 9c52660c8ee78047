import TunnelRelay.Text.CodePoints
/-!
# Sets of characters

A set is a list of closed ranges of code points. The ranges ascend, and between two of them at
least one code point is missing, so that equal sets are equal lists.
-/

namespace TunnelRelay.Pattern

/-- A set of characters. -/
structure CharSet where
  ranges : List (Nat × Nat)
  deriving DecidableEq

namespace CharSet

/-- The greatest code point. -/
def greatestCodePoint : Nat := 0x10FFFF

/-- The set without characters. -/
def empty : CharSet := ⟨[]⟩

/-- Whether a character is in the set. -/
def contains (s : CharSet) (c : Char) : Bool := Text.inRanges c.toNat s.ranges

/-- The ranges with one more range, which takes those in that it overlaps or touches. -/
def insertRange (least greatest : Nat) : List (Nat × Nat) → List (Nat × Nat)
  | [] => [(least, greatest)]
  | (a, b) :: rest =>
    if greatest + 1 < a then (least, greatest) :: (a, b) :: rest
    else if b + 1 < least then (a, b) :: insertRange least greatest rest
    else insertRange (min a least) (max b greatest) rest

/-- The set with the characters of some ranges added, in whatever order they come. -/
def addRanges (s : CharSet) (rs : List (Nat × Nat)) : CharSet :=
  ⟨rs.foldl (fun acc r => insertRange r.1 r.2 acc) s.ranges⟩

/-- The characters of some ranges. -/
def ofRanges (rs : List (Nat × Nat)) : CharSet := empty.addRanges rs

/-- The set of one character. -/
def single (c : Char) : CharSet := ⟨[(c.toNat, c.toNat)]⟩

/-- The ranges from a code point to another one that lie between ascending ranges. -/
def gaps (least greatest : Nat) : List (Nat × Nat) → List (Nat × Nat)
  | [] => if least ≤ greatest then [(least, greatest)] else []
  | (a, b) :: rest =>
    if least < a then (least, a - 1) :: gaps (b + 1) greatest rest
    else gaps (b + 1) greatest rest

/-- The code points up to the greatest one that are not in the set. -/
def complement (s : CharSet) (greatest : Nat) : CharSet := ⟨gaps 0 greatest s.ranges⟩

/-- What is in either set. -/
def union (s t : CharSet) : CharSet := s.addRanges t.ranges

/-- What is in both sets. -/
def inter (s t : CharSet) : CharSet :=
  ((s.complement greatestCodePoint).union (t.complement greatestCodePoint)).complement
    greatestCodePoint

/-- What is in the first set only. -/
def diff (s t : CharSet) : CharSet := s.inter (t.complement greatestCodePoint)

/-- Whether the set holds ASCII characters only. -/
def isAscii (s : CharSet) : Bool := s.ranges.all fun r => r.2 ≤ 0x7F

/-- The part of a range that lies within bounds, if there is one. -/
def clip (least greatest : Nat) (r : Nat × Nat) : Option (Nat × Nat) :=
  let a := max least r.1
  let b := min greatest r.2
  if a ≤ b then some (a, b) else none

/-- The set with the other case of each of its ASCII letters. -/
def withOtherCase (s : CharSet) : CharSet :=
  let lower := (s.ranges.filterMap (clip 0x41 0x5A)).map fun r => (r.1 + 0x20, r.2 + 0x20)
  let upper := (s.ranges.filterMap (clip 0x61 0x7A)).map fun r => (r.1 - 0x20, r.2 - 0x20)
  (s.addRanges lower).addRanges upper

/-- The ASCII digits. -/
def digits : CharSet := ⟨[(0x30, 0x39)]⟩

/-- The ASCII blanks. -/
def blanks : CharSet := ⟨[(0x09, 0x0D), (0x20, 0x20)]⟩

/-- The ASCII letters and digits and the underscore. -/
def wordChars : CharSet := ⟨[(0x30, 0x39), (0x41, 0x5A), (0x5F, 0x5F), (0x61, 0x7A)]⟩

/-- The sets that have names. -/
def named : List (String × CharSet) :=
  [("alnum", ⟨[(0x30, 0x39), (0x41, 0x5A), (0x61, 0x7A)]⟩),
   ("alpha", ⟨[(0x41, 0x5A), (0x61, 0x7A)]⟩),
   ("ascii", ⟨[(0x00, 0x7F)]⟩),
   ("blank", ⟨[(0x09, 0x09), (0x20, 0x20)]⟩),
   ("cntrl", ⟨[(0x00, 0x1F), (0x7F, 0x7F)]⟩),
   ("digit", digits),
   ("graph", ⟨[(0x21, 0x7E)]⟩),
   ("lower", ⟨[(0x61, 0x7A)]⟩),
   ("print", ⟨[(0x20, 0x7E)]⟩),
   ("punct", ⟨[(0x21, 0x2F), (0x3A, 0x40), (0x5B, 0x60), (0x7B, 0x7E)]⟩),
   ("space", blanks),
   ("upper", ⟨[(0x41, 0x5A)]⟩),
   ("word", wordChars),
   ("xdigit", ⟨[(0x30, 0x39), (0x41, 0x46), (0x61, 0x66)]⟩)]

end CharSet

end TunnelRelay.Pattern
