import TunnelRelay.Json.Token
/-!
# Passing over a value

`skip` passes over one JSON value of any depth and gives what follows it. It is a machine that
takes one character at a time and keeps a stack of the open brackets, so depth costs nothing.
It checks the grammar only: escapes of lone surrogates and numbers of any size pass.
-/

namespace TunnelRelay.Json

/-- An open bracket. -/
inductive Bracket where
  | list
  | object
  deriving DecidableEq

/-- What the machine is in the middle of. -/
inductive Mode where
  /-- A value starts here. -/
  | value
  /-- These letters of a literal are missing. -/
  | literal (missing : List Char)
  /-- A digit must follow the sign. -/
  | sign
  /-- Behind a zero that starts a number. -/
  | zero
  /-- In the digits before the point. -/
  | integer
  /-- A digit must follow the point. -/
  | point
  | fraction
  /-- Behind the letter of the exponent. -/
  | exponentLetter
  /-- A digit must follow the exponent's sign. -/
  | exponentSign
  | exponent
  /-- In a text, which is a key or a value. -/
  | text (isKey : Bool)
  | escape (isKey : Bool)
  /-- In the four bytes of an escape, all of them digits so far or not. -/
  | hex (isKey : Bool) (bytes : Nat) (digits : Bool)
  /-- Right behind an opening bracket. -/
  | opened
  /-- Behind a value inside a bracket. -/
  | after
  /-- A key starts here. -/
  | key
  /-- Behind a key. -/
  | colon

/-- What one character leads to. -/
inductive Move where
  /-- The machine goes on. -/
  | go (mode : Mode) (brackets : List Bracket)
  /-- The value ends with this character. -/
  | stop
  /-- The value has ended before this character. -/
  | stopBefore

/-- The value that is read last has ended with this character. -/
def endValue (brackets : List Bracket) : Move :=
  if brackets.isEmpty then .stop else .go .after brackets

/-- A character where a value starts. -/
def startValue (brackets : List Bracket) (c : Char) : Except Error Move :=
  if isSpace c then .ok (.go .value brackets)
  else if c = 'n' then .ok (.go (.literal ['u', 'l', 'l']) brackets)
  else if c = 't' then .ok (.go (.literal ['r', 'u', 'e']) brackets)
  else if c = 'f' then .ok (.go (.literal ['a', 'l', 's', 'e']) brackets)
  else if c = '-' then .ok (.go .sign brackets)
  else if c = '0' then .ok (.go .zero brackets)
  else if c.isDigit then .ok (.go .integer brackets)
  else if c = '"' then .ok (.go (.text false) brackets)
  else if c = '[' then .ok (.go .opened (.list :: brackets))
  else if c = '{' then .ok (.go .opened (.object :: brackets))
  else .error .expectedValue

/-- A character where a key starts. -/
def startKey (brackets : List Bracket) (c : Char) : Except Error Move :=
  if isSpace c then .ok (.go .key brackets)
  else if c = '"' then .ok (.go (.text true) brackets)
  else .error .keyNotText

/-- The character that closes a bracket. -/
def Bracket.closing : Bracket → Char
  | .list => ']'
  | .object => '}'

/-- The refusal of a character that neither goes on in the bracket nor closes it. -/
def Bracket.expected : Bracket → Error
  | .list => .expectedListEnd
  | .object => .expectedObjectEnd

/-- The refusal of a text that ends inside the bracket. -/
def Bracket.unclosed : Bracket → Error
  | .list => .endInList
  | .object => .endInObject

/-- A character behind a value. -/
def afterValue : List Bracket → Char → Except Error Move
  | [], _ => .ok .stopBefore
  | b :: brackets, c =>
    if isSpace c then .ok (.go .after (b :: brackets))
    else if c = ',' then
      match b with
      | .list => .ok (.go .value (b :: brackets))
      | .object => .ok (.go .key (b :: brackets))
    else if c = b.closing then .ok (endValue brackets)
    else .error b.expected

/-- A character right behind an opening bracket. -/
def afterOpening : List Bracket → Char → Except Error Move
  | [], _ => .ok .stopBefore
  | b :: brackets, c =>
    if isSpace c then .ok (.go .opened (b :: brackets))
    else if c = b.closing then .ok (endValue brackets)
    else match b with
      | .list => startValue (b :: brackets) c
      | .object => startKey (b :: brackets) c

/-- A character behind the digits of a number. -/
def afterDigits (brackets : List Bracket) (pointAllowed exponentAllowed : Bool) (c : Char) :
    Except Error Move :=
  if c = '.' ∧ pointAllowed then .ok (.go .point brackets)
  else if (c = 'e' ∨ c = 'E') ∧ exponentAllowed then .ok (.go .exponentLetter brackets)
  else afterValue brackets c

/-- The end of a text. -/
def endText (isKey : Bool) (brackets : List Bracket) : Move :=
  if isKey then .go .colon brackets else endValue brackets

/-- What one character leads to. -/
def step : Mode → List Bracket → Char → Except Error Move
  | .value, brackets, c => startValue brackets c
  | .literal [], brackets, c => afterValue brackets c
  | .literal (e :: es), brackets, c =>
    if c = e then .ok (if es.isEmpty then endValue brackets else .go (.literal es) brackets)
    else .error .expectedLiteral
  | .sign, brackets, c =>
    if c = '0' then .ok (.go .zero brackets)
    else if c.isDigit then .ok (.go .integer brackets)
    else .error .invalidNumber
  | .zero, brackets, c =>
    if c.isDigit then .error .invalidNumber else afterDigits brackets true true c
  | .integer, brackets, c =>
    if c.isDigit then .ok (.go .integer brackets) else afterDigits brackets true true c
  | .point, brackets, c =>
    if c.isDigit then .ok (.go .fraction brackets) else .error .invalidNumber
  | .fraction, brackets, c =>
    if c.isDigit then .ok (.go .fraction brackets) else afterDigits brackets false true c
  | .exponentLetter, brackets, c =>
    if c = '+' ∨ c = '-' then .ok (.go .exponentSign brackets)
    else if c.isDigit then .ok (.go .exponent brackets)
    else .error .invalidNumber
  | .exponentSign, brackets, c =>
    if c.isDigit then .ok (.go .exponent brackets) else .error .invalidNumber
  | .exponent, brackets, c =>
    if c.isDigit then .ok (.go .exponent brackets) else afterDigits brackets false false c
  | .text isKey, brackets, c =>
    if c = '"' then .ok (endText isKey brackets)
    else if c = '\\' then .ok (.go (.escape isKey) brackets)
    else if c.toNat < 0x20 then .error .controlInText
    else .ok (.go (.text isKey) brackets)
  | .escape isKey, brackets, c =>
    if c = 'u' then .ok (.go (.hex isKey 0 true) brackets)
    else if (shortEscape? c).isSome then .ok (.go (.text isKey) brackets)
    else .error .invalidEscape
  | .hex isKey bytes digits, brackets, c =>
    let bytes := bytes + c.utf8Size
    let digits := digits && (hexValue? c).isSome
    if bytes < 4 then .ok (.go (.hex isKey bytes digits) brackets)
    else if digits then .ok (.go (.text isKey) brackets)
    else .error .invalidEscape
  | .opened, brackets, c => afterOpening brackets c
  | .after, brackets, c => afterValue brackets c
  | .key, brackets, c => startKey brackets c
  | .colon, brackets, c =>
    if isSpace c then .ok (.go .colon brackets)
    else if c = ':' then .ok (.go .value brackets)
    else .error .expectedColon

/-- The end of the text behind a value. -/
def endAfterValue : List Bracket → Except Error (List Char)
  | [] => .ok []
  | b :: _ => .error b.unclosed

/-- The end of the text. -/
def atEnd : Mode → List Bracket → Except Error (List Char)
  | .value, _ => .error .endInValue
  | .literal _, _ => .error .endInValue
  | .sign, _ | .point, _ | .exponentLetter, _ | .exponentSign, _ => .error .invalidNumber
  | .text _, _ | .escape _, _ | .hex _ _ _, _ => .error .endInText
  | .key, _ | .colon, _ => .error .endInObject
  | .zero, brackets | .integer, brackets | .fraction, brackets | .exponent, brackets =>
    endAfterValue brackets
  | .opened, brackets | .after, brackets => endAfterValue brackets

/-- Runs the machine to the end of the value that it is in. -/
def skipFrom : Mode → List Bracket → List Char → Except Error (List Char)
  | mode, brackets, [] => atEnd mode brackets
  | mode, brackets, c :: cs =>
    match step mode brackets c with
    | .error e => .error e
    | .ok (.go mode brackets) => skipFrom mode brackets cs
    | .ok .stop => .ok cs
    | .ok .stopBefore => .ok (c :: cs)

/-- What follows the value that stands at the front of the text. -/
def skip (cs : List Char) : Except Error (List Char) := skipFrom .value [] cs

end TunnelRelay.Json
