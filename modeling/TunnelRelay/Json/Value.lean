import TunnelRelay.Text.Quoted
/-!
# Values and their compact text

`Value.render` writes a value without insignificant characters. In a text only the quote, the
backslash and the characters below the space are escaped.
-/

namespace TunnelRelay.Json

/-- A JSON value whose numbers are natural. Objects keep the order of their members. -/
inductive Value where
  | null
  | bool (b : Bool)
  | number (n : Nat)
  | text (cs : List Char)
  | list (vs : List Value)
  | object (members : List (List Char × Value))

/-- One character of a text. -/
def escapeChar (c : Char) : List Char :=
  if c = '"' then ['\\', '"']
  else if c = '\\' then ['\\', '\\']
  else if c = '\x08' then ['\\', 'b']
  else if c = '\x0c' then ['\\', 'f']
  else if c = '\n' then ['\\', 'n']
  else if c = '\r' then ['\\', 'r']
  else if c = '\t' then ['\\', 't']
  else if c.toNat < 0x20 then
    ['\\', 'u', '0', '0', Text.hexDigit (c.toNat / 16), Text.hexDigit (c.toNat % 16)]
  else [c]

/-- A text between quotes. -/
def renderText (cs : List Char) : List Char := '"' :: cs.flatMap escapeChar ++ ['"']

mutual

/-- The compact text of a value. -/
def Value.render : Value → List Char
  | .null => ['n', 'u', 'l', 'l']
  | .bool true => ['t', 'r', 'u', 'e']
  | .bool false => ['f', 'a', 'l', 's', 'e']
  | .number n => Nat.toDigits 10 n
  | .text cs => renderText cs
  | .list vs => '[' :: Value.renderList vs
  | .object ms => '{' :: Value.renderMembers ms

/-- The values of a list and its closing bracket. -/
def Value.renderList : List Value → List Char
  | [] => [']']
  | [v] => v.render ++ [']']
  | v :: vs => v.render ++ ',' :: Value.renderList vs

/-- The members of an object and its closing bracket. -/
def Value.renderMembers : List (List Char × Value) → List Char
  | [] => ['}']
  | [(k, v)] => renderText k ++ ':' :: v.render ++ ['}']
  | (k, v) :: ms => renderText k ++ ':' :: v.render ++ ',' :: Value.renderMembers ms

end

end TunnelRelay.Json
