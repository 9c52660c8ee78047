import TunnelRelay.Decimal.Shortest
import TunnelRelay.Text.Quoted
/-!
# Reasons why a JSON text is refused

One constructor per cause; `Error.message` gives the wording.
-/

namespace TunnelRelay.Json

open TunnelRelay.Decimal

/-- A number as it was read: an integer of 64 bits where it has no fraction and no exponent and
fits, and a floating point number otherwise. -/
inductive Number where
  | unsigned (n : Nat)
  /-- A negative integer. -/
  | signed (n : Int)
  | float (negative : Bool) (magnitude : Binary64)
  deriving DecidableEq

/-- What stood where something else was expected. -/
inductive Found where
  | null
  | bool (b : Bool)
  | number (n : Number)
  | text (cs : List Char)
  | list
  | object
  deriving DecidableEq

/-- Why a JSON text does not give the value that was asked for. -/
inductive Error where
  /-- The text ends where a value should stand. -/
  | endInValue
  | endInList
  | endInObject
  | endInText
  | expectedColon
  | expectedListEnd
  | expectedObjectEnd
  /-- A word that starts like a literal is none. -/
  | expectedLiteral
  | expectedValue
  | invalidEscape
  | invalidNumber
  | numberOutOfRange
  | controlInText
  | keyNotText
  /-- A surrogate without the one that belongs to it. -/
  | loneSurrogate
  /-- A leading surrogate that no escape follows. -/
  | halfPair
  | trailingComma
  | trailingText
  /-- A value of the wrong kind. -/
  | wrongKind (found : Found) (expected : String)
  /-- A number of the right kind that does not fit. -/
  | outOfRange (n : Number) (expected : String)
  /-- A list that ends before a member that has no default. -/
  | tooShort (length : Nat) (expected : String)
  | missing (member : String)
  | duplicate (member : String)
  /-- A text that is not an address of the kind asked for. -/
  | notAnAddress (kind : String)
  deriving DecidableEq

/-- Floating point numbers are written without an exponent from `0.00001` up to sixteen digits
before the point, and an exponent with its sign and no zero in front. -/
def floatLayout : FloatLayout := ⟨-5, 15, 1⟩

/-- The text of a number in a message. -/
def Number.describe : Number → String
  | .unsigned n => "integer `" ++ toString n ++ "`"
  | .signed n => "integer `" ++ toString n ++ "`"
  | .float negative x =>
    "floating point `" ++ (if negative then "-" else "") ++
      String.ofList (floatLayout.write (shortest x)) ++ "`"

/-- The text of what was found in a message. -/
def Found.describe : Found → String
  | .null => "null"
  | .bool b => "boolean `" ++ (if b then "true" else "false") ++ "`"
  | .number n => n.describe
  | .text cs => "string " ++ String.ofList (Text.quoted cs)
  | .list => "sequence"
  | .object => "map"

/-- The wording of a refusal. -/
def Error.message : Error → String
  | .endInValue => "EOF while parsing a value"
  | .endInList => "EOF while parsing a list"
  | .endInObject => "EOF while parsing an object"
  | .endInText => "EOF while parsing a string"
  | .expectedColon => "expected `:`"
  | .expectedListEnd => "expected `,` or `]`"
  | .expectedObjectEnd => "expected `,` or `\x7d`"
  | .expectedLiteral => "expected ident"
  | .expectedValue => "expected value"
  | .invalidEscape => "invalid escape"
  | .invalidNumber => "invalid number"
  | .numberOutOfRange => "number out of range"
  | .controlInText => "control character (\\u0000-\\u001F) found while parsing a string"
  | .keyNotText => "key must be a string"
  | .loneSurrogate => "lone leading surrogate in hex escape"
  | .halfPair => "unexpected end of hex escape"
  | .trailingComma => "trailing comma"
  | .trailingText => "trailing characters"
  | .wrongKind found expected => "invalid type: " ++ found.describe ++ ", expected " ++ expected
  | .outOfRange n expected => "invalid value: " ++ n.describe ++ ", expected " ++ expected
  | .tooShort length expected =>
    "invalid length " ++ toString length ++ ", expected " ++ expected
  | .missing member => "missing field `" ++ member ++ "`"
  | .duplicate member => "duplicate field `" ++ member ++ "`"
  | .notAnAddress kind => "invalid " ++ kind ++ " address syntax"

end TunnelRelay.Json
