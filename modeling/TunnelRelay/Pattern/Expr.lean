import TunnelRelay.Pattern.CharSet
/-!
# Regular expressions

A regular expression lists ways to match a text, in order of preference. Expressions are kept in a
normal form: sequences and alternatives lean to the right and hold none of their own kind on the
left, neighbouring literals are one literal, alternatives of single characters are a set, and what
all alternatives begin with stands in front of them. The last of these is part of the meaning: it
lets an alternative that is further down the list win against one that would have been content
with less of the common beginning.
-/

namespace TunnelRelay.Pattern

/-- A condition on the place between two characters of a text. -/
inductive Anchor where
  | textStart
  | textEnd
  | lineStart
  | lineEnd
  /-- As `lineStart`, where a carriage return ends a line by itself or with a line feed. -/
  | returnLineStart
  /-- As `lineEnd`, where a carriage return ends a line by itself or with a line feed. -/
  | returnLineEnd
  | wordBoundary
  | noWordBoundary
  | wordStart
  | wordEnd
  deriving DecidableEq

namespace Anchor

/-- Whether there is a character of a word. -/
def isInWord (c : Option Char) : Bool := c.any CharSet.wordChars.contains

/-- Whether the condition holds between two characters; at the ends of the text one is missing. -/
def holds (before after : Option Char) : Anchor → Bool
  | .textStart => before.isNone
  | .textEnd => after.isNone
  | .lineStart => before.all (· == '\n')
  | .lineEnd => after.all (· == '\n')
  | .returnLineStart => before.all (· == '\n') || (before == some '\r' && after != some '\n')
  | .returnLineEnd => after.all (· == '\r') || (after == some '\n' && before != some '\r')
  | .wordBoundary => isInWord before != isInWord after
  | .noWordBoundary => isInWord before == isInWord after
  | .wordStart => !isInWord before && isInWord after
  | .wordEnd => isInWord before && !isInWord after

end Anchor

/-- How often something may be repeated. -/
inductive Repetition where
  | atMostOnce
  | anyNumber
  | atLeastOnce
  deriving DecidableEq

/-- A regular expression. -/
inductive Expr where
  | empty
  | literal (cs : List Char)
  | set (s : CharSet)
  | anchor (a : Anchor)
  /-- A repetition; a greedy one would rather go on than stop. -/
  | repeated (often : Repetition) (isGreedy : Bool) (e : Expr)
  /-- A group that counts. No two groups of a pattern have the same number. -/
  | group (number : Nat) (e : Expr)
  | seq (p q : Expr)
  /-- The first one is preferred. -/
  | alt (p q : Expr)
  deriving DecidableEq

namespace Expr

/-- The expression of a set; the set of one character is a literal. -/
def ofSet (s : CharSet) : Expr :=
  match s.ranges with
  | [(a, b)] => if a = b then .literal [Char.ofNat a] else .set s
  | _ => .set s

/-- The parts of a sequence. -/
def parts : Expr → List Expr
  | .empty => []
  | .seq p q => p :: q.parts
  | e => [e]

/-- Puts a part in front of others. Two literals become one. -/
def consPart : Expr → List Expr → List Expr
  | .literal cs, .literal ds :: rest => .literal (cs ++ ds) :: rest
  | e, rest => e :: rest

/-- The sequence of parts. -/
def ofParts : List Expr → Expr
  | [] => .empty
  | [e] => e
  | e :: es => .seq e (ofParts es)

/-- The sequence of expressions. -/
def concat (es : List Expr) : Expr := ofParts ((es.flatMap parts).foldr consPart [])

/-- The alternatives of an expression. -/
def alternatives : Expr → List Expr
  | .alt p q => p :: q.alternatives
  | e => [e]

/-- The choice between alternatives; there is nothing to match without any. -/
def ofAlternatives : List Expr → Expr
  | [] => .set .empty
  | [e] => e
  | e :: es => .alt e (ofAlternatives es)

/-- The character of a literal that has one only. -/
def char? : Expr → Option Char
  | .literal [c] => some c
  | _ => none

/-- The set of an expression that is one. -/
def set? : Expr → Option CharSet
  | .set s => some s
  | _ => none

/-- The choice between alternatives. If all are single characters, or all are sets, it is a
set. -/
def choice (es : List Expr) : Expr :=
  match es with
  | [e] => e
  | es =>
    match es.mapM char?, es.mapM set? with
    | some cs, _ => ofSet (.ofRanges (cs.map fun c => (c.toNat, c.toNat)))
    | none, some ss => ofSet (ss.foldl CharSet.union .empty)
    | none, none => ofAlternatives es

/-- What two lists both begin with. -/
def commonStart : List Expr → List Expr → List Expr
  | p :: ps, q :: qs => if p = q then p :: commonStart ps qs else []
  | _, _ => []

/-- The parts that all alternatives begin with, if every one of them is a sequence. -/
def sharedStart : List Expr → List Expr
  | [] => []
  | e :: es =>
    if (e :: es).all fun e => 1 < e.parts.length then
      es.foldl (fun start f => commonStart start f.parts) e.parts
    else []

/-- The choice between expressions. What all begin with is taken out in front. -/
def alternation (es : List Expr) : Expr :=
  let es := es.flatMap alternatives
  let start := if 1 < es.length then sharedStart es else []
  if start.isEmpty then choice es
  else
    let rests := es.map fun e => ofParts (e.parts.drop start.length)
    concat (start ++ [choice (rests.flatMap alternatives)])

end Expr

end TunnelRelay.Pattern
