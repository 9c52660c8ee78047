import TunnelRelay.Pattern.Automaton
import TunnelRelay.Pattern.Bracket
import TunnelRelay.Text.Alphanumeric
/-!
# Reading patterns

A pattern writes a regular expression: characters, the point for any character but a line feed,
anchors, escapes, sets between brackets, groups, alternatives, flags, and three marks for
repetition. There is no counted repetition: an opening brace is refused.
-/

namespace TunnelRelay.Pattern

/-- Something that has been read. -/
structure Part where
  expr : Expr
  /-- How deep sequences, alternatives, groups, repetitions and brackets lie in one another. -/
  depth : Nat := 0
  /-- Whether it may be repeated: flags may not. -/
  isRepeatable : Bool := true

/-- A group that is being read, or the pattern around all groups. -/
structure Group where
  /-- The number, if the group counts. -/
  number : Option Nat := none
  /-- The flags that hold after the group. -/
  flagsAfter : Flags := {}
  /-- The alternatives that are complete, the latest first. -/
  alternatives : List Part := []
  /-- The parts of the last alternative, the latest first. -/
  parts : List Part := []

namespace Group

/-- One more part. -/
def push (g : Group) (p : Part) : Group := { g with parts := p :: g.parts }

/-- The greatest depth among parts. -/
def greatestDepth (ps : List Part) : Nat := (ps.map Part.depth).foldl max 0

/-- The parts in sequence. -/
def sequence (g : Group) : Part :=
  match g.parts with
  | [] => { expr := .empty }
  | [p] => p
  | ps => { expr := .concat (ps.reverse.map Part.expr), depth := greatestDepth ps + 1 }

/-- The next alternative begins. -/
def next (g : Group) : Group :=
  { g with alternatives := g.sequence :: g.alternatives, parts := [] }

/-- What the group holds. -/
def content (g : Group) : Part :=
  match g.alternatives with
  | [] => g.sequence
  | ps =>
    let ps := g.sequence :: ps
    { expr := .alternation (ps.reverse.map Part.expr), depth := greatestDepth ps + 1 }

/-- The group as a part of the one around it. -/
def toPart (g : Group) : Part :=
  let p := g.content
  let expr := match g.number with
    | none => p.expr
    | some n => .group n p.expr
  { expr := expr, depth := p.depth + 1 }

/-- Repeats the last part, if there is one that may be repeated. -/
def repeatLast (g : Group) (often : Repetition) (isGreedy : Bool) : Option Group :=
  match g.parts with
  | p :: ps =>
    if p.isRepeatable then
      some { g with parts := ⟨.repeated often isGreedy p.expr, p.depth + 1, true⟩ :: ps }
    else none
  | [] => none

end Group

/-- What is known at some place of a pattern. -/
structure Reader where
  flags : Flags := {}
  /-- The names of the groups so far. -/
  names : List (List Char) := []
  /-- How many groups that count there are so far. -/
  count : Nat := 0
  group : Group := {}
  /-- The groups around the current one, the innermost first. -/
  outer : List Group := []

/-- The repetition of a mark. -/
def repetition? : Char → Option Repetition
  | '?' => some .atMostOnce
  | '*' => some .anyNumber
  | '+' => some .atLeastOnce
  | _ => none

/-- The expression of a character. Of letters with another case both are meant if flags say so;
which have one is known for ASCII only. -/
def charExpr (f : Flags) (c : Char) : Option Expr :=
  if !f.foldsCase then some (.literal [c])
  else if f.isUnicode then none
  else if c.isAlpha then some (.ofSet (CharSet.single c).withOtherCase)
  else some (.literal [c])

/-- The set of the point, which is never one of bytes. -/
def pointSet (f : Flags) : Option CharSet :=
  if !f.isUnicode then none
  else
    let missing : CharSet :=
      if f.isDotAll then .empty
      else if f.hasReturns then .ofRanges [(0x0A, 0x0A), (0x0D, 0x0D)]
      else .single '\n'
    some (missing.complement CharSet.greatestCodePoint)

/-- The anchor of a caret. -/
def caret (f : Flags) : Anchor :=
  if !f.isPerLine then .textStart else if f.hasReturns then .returnLineStart else .lineStart

/-- The anchor of a dollar sign. -/
def dollar (f : Flags) : Anchor :=
  if !f.isPerLine then .textEnd else if f.hasReturns then .returnLineEnd else .lineEnd

/-- Whether a character can stand in the name of a group, at the beginning or later on. -/
def isNameChar (isFirst : Bool) (c : Char) : Bool :=
  if isFirst then c == '_' || Text.isAlphabetic c
  else c == '_' || c == '.' || c == '[' || c == ']' || Text.isAlphanumeric c

/-- Reads a name up to the angle that closes it; `name` is what has been read, backwards. -/
def readName (name : List Char) : List Char → Option (List Char × List Char)
  | [] => none
  | c :: cs =>
    if c = '>' then (if name.isEmpty then none else some (name.reverse, cs))
    else if isNameChar name.isEmpty c then readName (c :: name) cs
    else none

namespace Reader

/-- One more part. -/
def push (r : Reader) (p : Part) : Reader := { r with group := r.group.push p }

/-- Opens a group in the current one, with flags for what is in it. -/
def enter (r : Reader) (number : Option Nat) (inner : Flags) : Reader :=
  { r with
    flags := inner
    group := { number := number, flagsAfter := r.flags }
    outer := r.group :: r.outer }

/-- Opens a group that counts. -/
def enterCounted (r : Reader) : Reader :=
  { r.enter (some r.count) r.flags with count := r.count + 1 }

/-- Opens a group with a name, which has to be a new one. -/
def enterNamed (r : Reader) (cs : List Char) : Option (Reader × List Char) := do
  let (name, cs) ← readName [] cs
  if r.names.contains name then none
  else pure ({ r.enterCounted with names := name :: r.names }, cs)

/-- Reads what follows an opening parenthesis. Flags without a group are a part that matches
nothing. -/
def openGroup (r : Reader) (cs : List Char) : Option (Reader × List Char) :=
  match r.flags.skip cs with
  | '?' :: 'P' :: '<' :: cs => r.enterNamed cs
  | '?' :: '<' :: cs => r.enterNamed cs
  | '?' :: cs => do
    let (f, ending, cs) ← r.flags.read [] cs
    match ending with
    | .colon => pure (r.enter none f, cs)
    | .parenthesis => pure ({ r with flags := f }.push ⟨.empty, 0, false⟩, cs)
  | cs => some (r.enterCounted, cs)

/-- A closing parenthesis. -/
def closeGroup (r : Reader) : Option Reader :=
  match r.outer with
  | [] => none
  | g :: outer =>
    some { r with flags := r.group.flagsAfter, group := g.push r.group.toPart, outer := outer }

/-- Repeats the last part. A question mark right behind makes the repetition a lazy one. -/
def repeatLast (r : Reader) (often : Repetition) (cs : List Char) :
    Option (Reader × List Char) :=
  let (isLazy, cs) := match cs with
    | '?' :: cs => (true, cs)
    | cs => (false, cs)
  (r.group.repeatLast often (isLazy == r.flags.swapsGreed)).map fun g => ({ r with group := g }, cs)

/-- Reads an escape. -/
def escape (r : Reader) (cs : List Char) : Option (Reader × List Char) := do
  let (atom, cs) ← readEscape r.flags cs
  let expr ← match atom with
    | .char c => charExpr r.flags c
    | .anchor a => some (.anchor a)
    | .set s => some (.ofSet s)
  pure (r.push { expr := expr }, cs)

/-- Reads a character and what belongs to it. -/
def step (r : Reader) : Char → List Char → Option (Reader × List Char)
  | '(', cs => r.openGroup cs
  | ')', cs => r.closeGroup.map (·, cs)
  | '|', cs => some ({ r with group := r.group.next }, cs)
  | '[', cs => do
    let (s, depth, cs) ← Bracket.read r.flags cs
    pure (r.push { expr := .ofSet s, depth := depth }, cs)
  | '\x7b', _ => none
  | '\\', cs => r.escape cs
  | '.', cs => do
    let s ← pointSet r.flags
    pure (r.push { expr := .set s }, cs)
  | '^', cs => some (r.push { expr := .anchor (caret r.flags) }, cs)
  | '$', cs => some (r.push { expr := .anchor (dollar r.flags) }, cs)
  | c, cs =>
    match repetition? c with
    | some often => r.repeatLast often cs
    | none => do
      let expr ← charExpr r.flags c
      pure (r.push { expr := expr }, cs)

/-- Reads the rest of a pattern. Every step takes a character, so that `fuel` may be one more than
there are characters. -/
def run : Nat → Reader → List Char → Option Part
  | 0, _, _ => none
  | fuel + 1, r, cs =>
    match r.flags.skip cs with
    | [] => if r.outer.isEmpty then some r.group.content else none
    | c :: cs =>
      match r.step c cs with
      | none => none
      | some (r, cs) => run fuel r cs

end Reader

/-- The greatest depth of a pattern. -/
def greatestDepth : Nat := 250

/-- The expression that a pattern writes, if it writes one. -/
def expr? (cs : List Char) : Option Expr :=
  match Reader.run (cs.length + 1) {} cs with
  | none => none
  | some p => if p.depth ≤ greatestDepth then some p.expr else none

/-- The automaton of a pattern. -/
def automaton? (cs : List Char) : Option Automaton := (expr? cs).map .ofExpr

end TunnelRelay.Pattern
