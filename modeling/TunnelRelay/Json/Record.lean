import TunnelRelay.Json.Skip
/-!
# Records

A record is written as an object or as the list of its members' values in declaration order. Its
members are read into a draft, which remembers which of them it has seen; the draft is then
completed by the defaults of the absent members. Members of other names are passed over.
-/

namespace TunnelRelay.Json

/-- A member of a record: its name, whether the draft has it, and its reader. -/
structure Member (δ : Type) where
  name : String
  isSet : δ → Bool
  read : δ → Reader δ

/-- A kind of record. `complete` gives the record, or the place and the name of the first absent
member that has no default. -/
structure Schema (δ γ : Type) where
  title : String
  members : List (Member δ)
  blank : δ
  complete : δ → Except (Nat × String) γ

namespace Schema

variable {δ γ : Type}

/-- Reads the colon between a key and its value. -/
def readColon (cs : List Char) : Except Error (List Char) :=
  match skipSpace cs with
  | [] => .error .endInObject
  | ':' :: rest => .ok rest
  | _ => .error .expectedColon

/-- Reads one member from behind the opening quote of its key. A member that the draft has
already is refused before its value is looked at. -/
def readMember (members : List (Member δ)) (draft : δ) : Reader δ := fun cs => do
  let (key, rest) ← readText cs
  match members.find? fun m => m.name.toList == key with
  | some m =>
    if m.isSet draft then .error (.duplicate m.name)
    else m.read draft (← readColon rest)
  | none => pure (draft, ← skip (← readColon rest))

/-- Reads the members of an object from behind its opening bracket, or from behind a member, and
its closing bracket. `fuel` bounds the number of members; the length of the text is enough. -/
def readMembers (members : List (Member δ)) : Nat → Bool → δ → Reader δ
  | 0, _, _, _ => .error .endInObject
  | fuel + 1, isFirst, draft, cs =>
    let member (cs : List Char) : Except Error (δ × List Char) := do
      let (draft, rest) ← readMember members draft cs
      readMembers members fuel false draft rest
    match skipSpace cs with
    | [] => .error .endInObject
    | c :: rest =>
      if c = '}' then .ok (draft, rest)
      else if isFirst then
        if c = '"' then member rest else .error .keyNotText
      else if c = ',' then
        match skipSpace rest with
        | [] => .error .endInValue
        | '"' :: rest => member rest
        | '}' :: _ => .error .trailingComma
        | _ => .error .keyNotText
      else .error .expectedObjectEnd

/-- Reads the closing bracket of a list behind the last member. -/
def readListEnd (cs : List Char) : Except Error (List Char) :=
  match skipSpace cs with
  | [] => .error .endInList
  | ']' :: rest => .ok rest
  | ',' :: rest =>
    match skipSpace rest with
    | ']' :: _ => .error .trailingComma
    | _ => .error .trailingText
  | _ => .error .trailingText

/-- Reads the values of a list from behind its opening bracket, or from behind a value. The draft
is given with the text from the closing bracket on. -/
def readValues : List (Member δ) → Bool → δ → Reader δ
  | [], _, draft, cs => .ok (draft, cs)
  | m :: members, isFirst, draft, cs =>
    match skipSpace cs with
    | [] => .error .endInList
    | c :: rest =>
      if c = ']' then .ok (draft, c :: rest)
      else if isFirst then do
        let (draft, rest) ← m.read draft (c :: rest)
        readValues members false draft rest
      else if c = ',' then
        match skipSpace rest with
        | [] => .error .endInValue
        | ']' :: _ => .error .trailingComma
        | rest => do
          let (draft, rest) ← m.read draft rest
          readValues members false draft rest
      else .error .expectedListEnd

/-- The number of elements that a list of all members has. -/
def sizeText (schema : Schema δ γ) : String :=
  schema.title ++ " with " ++ toString schema.members.length ++
    (if schema.members.length = 1 then " element" else " elements")

/-- Reads a record. -/
def read (schema : Schema δ γ) : Reader γ := fun cs =>
  match skipSpace cs with
  | [] => .error .endInValue
  | '{' :: rest => do
    let (draft, rest) ← readMembers schema.members (rest.length + 1) true schema.blank rest
    match schema.complete draft with
    | .ok record => pure (record, rest)
    | .error (_, name) => .error (.missing name)
  | '[' :: rest => do
    let (draft, rest) ← readValues schema.members true schema.blank rest
    match schema.complete draft with
    | .ok record => pure (record, ← readListEnd rest)
    | .error (place, _) => .error (.tooShort place schema.sizeText)
  | cs => .error (wrongKind schema.title cs)

/-- The record that a whole text holds. -/
def decode (schema : Schema δ γ) (cs : List Char) : Except Error γ := do
  let (record, rest) ← schema.read cs
  if (skipSpace rest).isEmpty then pure record else .error .trailingText

end Schema

end TunnelRelay.Json
