import TunnelRelay.Pattern.Escape
/-!
# Sets between brackets

Between brackets stand characters, ranges, named sets and brackets in brackets, all of which are
put together. Two hyphens, ampersands or tildes between such unions take the difference, the
intersection or the symmetric difference of what stands on either side, from left to right.
-/

namespace TunnelRelay.Pattern

/-- A set that is being put together. -/
structure Draft where
  set : CharSet := .empty
  /-- Whether the set is known to have every letter in both cases, if in one. -/
  isFolded : Bool := true

namespace Draft

/-- With one more range. -/
def push (d : Draft) (least greatest : Char) : Draft :=
  ⟨d.set.addRanges [(least.toNat, greatest.toNat)], false⟩

/-- What is in either. -/
def union (d e : Draft) : Draft :=
  if e.set = .empty ∨ d.set = e.set then d else ⟨d.set.union e.set, d.isFolded && e.isFolded⟩

/-- What is in both. -/
def inter (d e : Draft) : Draft :=
  if d.set = .empty then d
  else if e.set = .empty then {}
  else ⟨d.set.inter e.set, d.isFolded && e.isFolded⟩

/-- What is in the first only. -/
def diff (d e : Draft) : Draft :=
  if d.set = .empty ∨ e.set = .empty then d
  else ⟨d.set.diff e.set, d.isFolded && e.isFolded⟩

/-- With the other case of each letter, if flags ask for it. Beyond ASCII this is not known, so
there a set has to have it already. -/
def fold (f : Flags) (d : Draft) : Option Draft :=
  if !f.foldsCase then some d
  else if !f.isUnicode then some ⟨d.set.withOtherCase, true⟩
  else if d.isFolded ∨ d.set = .empty then some ⟨d.set, true⟩
  else none

/-- What is not in the set: of all characters, or of all bytes. -/
def negate (f : Flags) (d : Draft) : Draft :=
  ⟨d.set.complement (if f.isUnicode then CharSet.greatestCodePoint else 0xFF),
    d.isFolded || decide (d.set = .empty)⟩

/-- The set that has been put together, perhaps negated. Without Unicode it has to be ASCII. -/
def finish (f : Flags) (isNegated : Bool) (d : Draft) : Option Draft := do
  let d ← d.fold f
  let d := if isNegated then d.negate f else d
  if !f.isUnicode && !d.set.isAscii then none else pure d

end Draft

/-- What stands between two unions. -/
inductive Operation where
  | intersection
  | difference
  | symmetricDifference

/-- What an operation makes of two sides. -/
def Operation.apply (f : Flags) (op : Operation) (left right : Draft) : Option Draft := do
  let right ← right.fold f
  let left ← left.fold f
  pure <| match op with
    | .intersection => left.inter right
    | .difference => left.diff right
    | .symmetricDifference => (left.union right).diff (left.inter right)

/-- A bracket that is being read. -/
structure Bracket where
  isNegated : Bool
  /-- An operation that waits for its right side, with the left side and its depth. -/
  pending : Option (Operation × Draft × Nat) := none
  /-- The union so far. -/
  draft : Draft := {}
  /-- How many items the union has. -/
  count : Nat := 0
  /-- The greatest depth of an item. -/
  depth : Nat := 0

namespace Bracket

/-- One more item. -/
def add (b : Bracket) (d : Draft) (depth : Nat) : Bracket :=
  { b with draft := d, count := b.count + 1, depth := max b.depth depth }

/-- What has been read, with its depth. A union of several items and an operation are one deeper
than what is in them. -/
def total (f : Flags) (b : Bracket) : Option (Draft × Nat) :=
  let depth := if 1 < b.count then b.depth + 1 else b.depth
  match b.pending with
  | none => some (b.draft, depth)
  | some (op, left, leftDepth) => do
    let d ← op.apply f left b.draft
    pure (Draft.union {} d, max leftDepth depth + 1)

/-- An operation follows. -/
def operate (f : Flags) (b : Bracket) (op : Operation) : Option Bracket := do
  let (left, depth) ← b.total f
  pure { isNegated := b.isNegated, pending := some (op, left, depth) }

/-- The bracket ends. -/
def close (f : Flags) (b : Bracket) : Option (Draft × Nat) := do
  let (d, depth) ← b.total f
  let d ← d.finish f b.isNegated
  pure (d, depth + 1)

/-- Passes over hyphens, each of which is an item. There are no more than `fuel`. -/
def openHyphens (f : Flags) : Nat → Bracket → List Char → Bracket × List Char
  | fuel + 1, b, '-' :: cs => openHyphens f fuel (b.add (b.draft.push '-' '-') 0) (f.skip cs)
  | _, b, cs => (b, cs)

/-- Reads the beginning of a bracket: a caret negates it, hyphens stand for themselves, and so does
a closing bracket if nothing else does. -/
def open? (f : Flags) (cs : List Char) : Option (Bracket × List Char) :=
  let (isNegated, cs) := match f.skip cs with
    | '^' :: cs => (true, f.skip cs)
    | cs => (false, cs)
  let (b, cs) := openHyphens f cs.length ⟨isNegated, none, {}, 0, 0⟩ cs
  let (b, cs) := match cs with
    | ']' :: rest => if b.count = 0 then (b.add (b.draft.push ']' ']') 0, f.skip rest) else (b, cs)
    | cs => (b, cs)
  if cs.isEmpty then none else some (b, cs)

/-- Reads the name of a set between colons, perhaps negated by a caret, and the closing bracket. -/
def readName? (cs : List Char) : Option (Bool × CharSet × List Char) :=
  match cs with
  | ':' :: cs =>
    let (isNegated, cs) := match cs with
      | '^' :: cs => (true, cs)
      | cs => (false, cs)
    match cs.dropWhile (· != ':') with
    | ':' :: ']' :: rest =>
      (CharSet.named.lookup (String.ofList (cs.takeWhile (· != ':')))).map (isNegated, ·, rest)
    | _ => none
  | _ => none

/-- Whether a character can be in a set: without Unicode only those of ASCII can. -/
def isAllowed (f : Flags) (c : Char) : Bool := f.isUnicode || c.toNat ≤ 0x7F

/-- One more atom. Anchors are refused. -/
def addAtom (f : Flags) (b : Bracket) : Atom → Option Bracket
  | .char c => if isAllowed f c then some (b.add (b.draft.push c c) 0) else none
  | .set s => some (b.add (b.draft.union ⟨s, false⟩) 0)
  | .anchor _ => none

/-- Reads an atom. -/
def readAtom (f : Flags) : List Char → Option (Atom × List Char)
  | [] => none
  | '\\' :: cs => readEscape f cs
  | c :: cs => some (.char c, cs)

/-- Reads an atom or a range. A hyphen in front of a closing bracket or of another hyphen makes no
range. -/
def readItem (f : Flags) (b : Bracket) (cs : List Char) : Option (Bracket × List Char) := do
  let (first, cs) ← readAtom f cs
  match f.skip cs with
  | '-' :: rest =>
    if f.ahead rest = some ']' ∨ f.ahead rest = some '-' then
      pure (← b.addAtom f first, '-' :: rest)
    else
      let (last, rest) ← readAtom f (f.skip rest)
      match first, last with
      | .char c, .char d =>
        if c ≤ d ∧ isAllowed f c ∧ isAllowed f d then pure (b.add (b.draft.push c d) 0, rest)
        else none
      | _, _ => none
  | cs => pure (← b.addAtom f first, cs)

/-- Reads the rest of a bracket and of those around it, the innermost first. Every step takes a
character, so that `fuel` may be one more than there are characters. -/
def readRest (f : Flags) : Nat → Bracket → List Bracket → List Char →
    Option (CharSet × Nat × List Char)
  | 0, _, _, _ => none
  | fuel + 1, b, outer, cs =>
    match f.skip cs with
    | [] => none
    | '[' :: cs =>
      match readName? cs with
      | some (isNegated, s, cs) =>
        match Draft.finish f isNegated ⟨s, false⟩ with
        | some d => readRest f fuel (b.add (b.draft.union d) 0) outer cs
        | none => none
      | none =>
        match open? f cs with
        | some (inner, cs) => readRest f fuel inner (b :: outer) cs
        | none => none
    | ']' :: cs =>
      match b.close f, outer with
      | some (d, depth), [] => some (d.set, depth, cs)
      | some (d, depth), b :: outer => readRest f fuel (b.add (b.draft.union d) depth) outer cs
      | none, _ => none
    | '&' :: '&' :: cs =>
      match b.operate f .intersection with
      | some b => readRest f fuel b outer cs
      | none => none
    | '-' :: '-' :: cs =>
      match b.operate f .difference with
      | some b => readRest f fuel b outer cs
      | none => none
    | '~' :: '~' :: cs =>
      match b.operate f .symmetricDifference with
      | some b => readRest f fuel b outer cs
      | none => none
    | cs =>
      match readItem f b cs with
      | some (b, cs) => readRest f fuel b outer cs
      | none => none

/-- Reads a bracket whose opening has been read: the set, the depth to which brackets are in it,
and the rest of the text. -/
def read (f : Flags) (cs : List Char) : Option (CharSet × Nat × List Char) := do
  let (b, cs) ← open? f cs
  readRest f (cs.length + 1) b [] cs

end Bracket

end TunnelRelay.Pattern
