import TunnelRelay.Text.Blank
/-!
# Flags of patterns

Flags say how the characters of a pattern are to be read. They are set by letters between a
question mark and the end of a group's head, and hold until the group around them ends.
-/

namespace TunnelRelay.Pattern

/-- How a pattern is read. -/
structure Flags where
  /-- `i`: letters stand for either case. -/
  foldsCase : Bool := false
  /-- `m`: the start and the end are those of lines. -/
  isPerLine : Bool := false
  /-- `s`: the point is for line feeds, too. -/
  isDotAll : Bool := false
  /-- `U`: repetitions are greedy only with a question mark. -/
  swapsGreed : Bool := false
  /-- `u`: letters, digits and blanks are those of all scripts, rather than of ASCII. -/
  isUnicode : Bool := true
  /-- `R`: carriage returns end lines, too. -/
  hasReturns : Bool := false
  /-- `x`: blanks and comments are passed over. -/
  isVerbose : Bool := false
  deriving DecidableEq

namespace Flags

/-- Sets or clears the flag of a letter. -/
def assign (f : Flags) (value : Bool) : Char → Option Flags
  | 'i' => some { f with foldsCase := value }
  | 'm' => some { f with isPerLine := value }
  | 's' => some { f with isDotAll := value }
  | 'U' => some { f with swapsGreed := value }
  | 'u' => some { f with isUnicode := value }
  | 'R' => some { f with hasReturns := value }
  | 'x' => some { f with isVerbose := value }
  | _ => none

/-- What ends a row of flags. -/
inductive End where
  /-- A colon: the flags are for a group, which follows. -/
  | colon
  /-- A parenthesis: the flags are for the rest of the group around them. -/
  | parenthesis
  deriving DecidableEq

/-- Reads flags and what ends them. Those after a hyphen are cleared; the hyphen and every letter
may come once only, and the hyphen not last. `seen` holds what has come, the latest first. -/
def read (f : Flags) (seen : List Char) : List Char → Option (Flags × End × List Char)
  | [] => none
  | c :: cs =>
    if c = ':' ∨ c = ')' then
      if seen.head? = some '-' ∨ (c = ')' ∧ seen.isEmpty) then none
      else some (f, if c = ':' then .colon else .parenthesis, cs)
    else if seen.contains c then none
    else if c = '-' then read f (c :: seen) cs
    else
      match f.assign (!seen.contains '-') c with
      | none => none
      | some f => read f (c :: seen) cs

/-- A text without the blanks and comments in front of it. A comment reaches from a hash to the end
of the line. -/
def dropBlanks (inComment : Bool) : List Char → List Char
  | [] => []
  | c :: cs =>
    if inComment then dropBlanks (c != '\n') cs
    else if Text.isBlank c then dropBlanks false cs
    else if c = '#' then dropBlanks true cs
    else c :: cs

/-- Passes over blanks and comments, if they are to be passed over. -/
def skip (f : Flags) (cs : List Char) : List Char :=
  if f.isVerbose then dropBlanks false cs else cs

/-- The first character of a text that is neither a blank nor a hash, unless there is a second hash:
that one counts. -/
def firstMark (afterHash : Bool) : List Char → Option Char
  | [] => none
  | c :: cs =>
    if Text.isBlank c then firstMark afterHash cs
    else if c = '#' ∧ ¬afterHash then firstMark true cs
    else some c

/-- The character ahead. Where blanks are passed over they are here, too, and so is one hash, but
not what follows it; blanks count if there is nothing else. -/
def ahead (f : Flags) (cs : List Char) : Option Char :=
  if f.isVerbose then (firstMark false cs).or cs.head? else cs.head?

end Flags

end TunnelRelay.Pattern
