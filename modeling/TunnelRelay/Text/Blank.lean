/-!
# Blanks, words and lines

A text is a list of characters here. Blanks are the characters with the Unicode property
White_Space; words are the maximal runs of other characters; lines end with a line feed, which
takes a carriage return in front of it along.
-/

namespace TunnelRelay.Text

/-- The Unicode property White_Space. -/
def isBlank (c : Char) : Bool :=
  let n := c.val.toNat
  (0x09 ≤ n && n ≤ 0x0D) || n == 0x20 || n == 0x85 || n == 0xA0 || n == 0x1680 ||
    (0x2000 ≤ n && n ≤ 0x200A) || n == 0x2028 || n == 0x2029 || n == 0x202F || n == 0x205F ||
    n == 0x3000

/-- Every blank of the ASCII range that core knows is a blank. -/
theorem isBlank_of_isWhitespace (c : Char) (h : c.isWhitespace = true) : isBlank c = true := by
  simp only [Char.isWhitespace, Bool.or_eq_true, decide_eq_true_eq] at h
  rcases h with ((h | h) | h) | h <;> subst h <;> rfl

/-- Whether a text holds nothing but blanks. -/
def isAllBlank (cs : List Char) : Bool := cs.all isBlank

/-- A text without the blanks around it. -/
def trim (cs : List Char) : List Char :=
  ((cs.dropWhile isBlank).reverse.dropWhile isBlank).reverse

/-- The words of a text whose last word so far, written backwards, is `word`. -/
def wordsAfter (word : List Char) : List Char → List (List Char)
  | [] => if word.isEmpty then [] else [word.reverse]
  | c :: cs =>
    if isBlank c then
      if word.isEmpty then wordsAfter [] cs else word.reverse :: wordsAfter [] cs
    else wordsAfter (c :: word) cs

/-- The maximal runs of characters that are not blanks, in order. -/
def words (cs : List Char) : List (List Char) := wordsAfter [] cs

/-- A line written backwards, as it stands before its line feed: a carriage return that ends it
belongs to the line's end. -/
def endLine : List Char → List Char
  | '\r' :: rest => rest.reverse
  | line => line.reverse

/-- The lines of a text whose current line so far, written backwards, is `line`. -/
def linesAfter (line : List Char) : List Char → List (List Char)
  | [] => if line.isEmpty then [] else [line.reverse]
  | '\n' :: cs => endLine line :: linesAfter [] cs
  | c :: cs => linesAfter (c :: line) cs

/-- The lines of a text. A line ends with a line feed or at the end of the text; no empty line
follows the last line feed. -/
def lines (cs : List Char) : List (List Char) := linesAfter [] cs

/-- The parts of a text between the occurrences of a character; one more than there are
occurrences. -/
def splitAt (sep : Char) : List Char → List (List Char)
  | [] => [[]]
  | c :: cs =>
    if c = sep then [] :: splitAt sep cs
    else match splitAt sep cs with
      | [] => [[c]]
      | part :: parts => (c :: part) :: parts

end TunnelRelay.Text
