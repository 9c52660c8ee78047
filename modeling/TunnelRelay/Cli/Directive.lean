import TunnelRelay.Log
import TunnelRelay.Pattern.Read
import TunnelRelay.Text.Alphanumeric
import TunnelRelay.Text.Blank
import TunnelRelay.Text.Utf8
/-!
# Directives of log filters

A directive lets events up to a level through. It can be bound to the targets that start with a
text, to the inside of spans of a name, and to spans or events that have a field; of spans it can
ask a value for that field.
-/

namespace TunnelRelay.Cli

/-- What the value of a field is compared with. -/
inductive FieldPattern where
  | number (n : Nat)
  /-- A pattern, beside the automaton for texts that is read from it. -/
  | text (pattern : List Char) (automaton : Pattern.Automaton)
  /-- A truth value, a negative number or a number with a point or an exponent. -/
  | other
  deriving DecidableEq

namespace FieldPattern

/-- The number that decimal digits write. A plus sign may stand in front of them. -/
def number? (cs : List Char) : Option Nat :=
  let digits := match cs with
    | '+' :: rest => rest
    | cs => cs
  if digits.isEmpty ∨ digits.all Char.isDigit = false then none
  else some (digits.foldl (fun (n : Nat) c => n * 10 + (c.toNat - 0x30)) 0)

/-- Whether a text is an exponent, or nothing. -/
def isExponent : List Char → Bool
  | [] => true
  | e :: cs =>
    let digits := match cs with
      | '+' :: rest | '-' :: rest => rest
      | cs => cs
    (e == 'e' || e == 'E') && !digits.isEmpty && digits.all Char.isDigit

/-- Whether a text without a sign is a number, possibly with a point and an exponent, or names a
value that is none. -/
def isUnsignedReal (cs : List Char) : Bool :=
  let name := String.ofList (cs.map Char.toLower)
  let whole := cs.takeWhile Char.isDigit
  let rest := cs.dropWhile Char.isDigit
  let isNumber := match rest with
    | '.' :: rest =>
      (!whole.isEmpty || !(rest.takeWhile Char.isDigit).isEmpty) &&
        isExponent (rest.dropWhile Char.isDigit)
    | rest => !whole.isEmpty && isExponent rest
  name == "inf" || name == "infinity" || name == "nan" || isNumber

/-- Whether a text is a number with or without a sign. -/
def isReal : List Char → Bool
  | '+' :: cs | '-' :: cs => isUnsignedReal cs
  | cs => isUnsignedReal cs

/-- Reads a value. What is no truth value and no number is a pattern, and has to be a correct
one. -/
def parse? (cs : List Char) : Option FieldPattern :=
  match number? cs with
  | some n => some (if n < UInt64.size then .number n else .other)
  | none =>
    if cs = "true".toList ∨ cs = "false".toList ∨ isReal cs then some .other
    else (Pattern.automaton? cs).map (.text cs)

/-- Whether the value of a field is the one that is asked for. -/
def isMatch : FieldPattern → LogValue → Bool
  | .number n, .number m => n == m
  | .text _ a, .text s => a.accepts s.toList
  | _, _ => false

end FieldPattern

/-- A field that a directive asks for, perhaps with a value. -/
structure FieldTest where
  name : List Char
  value : Option FieldPattern
  deriving DecidableEq

/-- Reads a field. What follows a second equals sign is passed over. -/
def FieldTest.parse? (cs : List Char) : Option FieldTest :=
  match Text.splitAt '=' cs with
  | [] => none
  | [[]] => none
  | [name] => some ⟨name, none⟩
  | name :: value :: _ => (FieldPattern.parse? value).map fun v => ⟨name, some v⟩

/-- One directive. -/
structure Directive where
  /-- What the targets of events start with; without it the directive is for all targets. -/
  target : Option (List Char)
  /-- The name of the span that events are in; without it any span will do. -/
  span : Option (List Char)
  field : Option FieldTest
  /-- The greatest rank of a level that is let through; 0 lets nothing through. -/
  greatest : Nat
  deriving DecidableEq

namespace Directive

/-- The rank of the most verbose level. -/
def all : Nat := Level.trace.rank

/-- The ranks of the names of levels. -/
def names : List (String × Nat) :=
  [("off", 0), ("error", 1), ("warn", 2), ("info", 3), ("debug", 4), ("trace", 5)]

/-- The rank of a level by its number or by its name in either case. -/
def rank? (cs : List Char) : Option Nat :=
  match FieldPattern.number? cs with
  | some n => if n ≤ all then some n else none
  | none => names.lookup (String.ofList (cs.map Char.toLower))

/-- The rank after an equals sign; without any it is the greatest. -/
def rankAfter (cs : List Char) : Option Nat := if cs.isEmpty then some all else rank? cs

/-- Whether a directive can start with a character: a letter, a digit, or one of three marks. -/
def canStart (c : Char) : Bool :=
  Text.isAlphanumeric c || c == '-' || c == ':' || c == '_'

/-- The number of bytes of a text. -/
def width (cs : List Char) : Nat := (Text.Utf8.encode cs).length

/-- The text of the bytes from one offset up to another. -/
def piece? (source : List UInt8) (start stop : Nat) : Option (List Char) :=
  Text.Utf8.decode? ((source.take stop).drop start)

/-- The text of the bytes from an offset on. -/
def rest? (source : List UInt8) (start : Nat) : Option (List Char) :=
  Text.Utf8.decode? (source.drop start)

/-- Reads the rank after an equals sign that stands in front of an offset. -/
def readRank (source : List UInt8) (start : Nat) (d : Directive) : Option Directive := do
  let rank ← rankAfter (← rest? source start)
  pure { d with greatest := rank }

/-- Reads what follows a closing bracket that stands in front of an offset: nothing, or a rank. -/
def readEnd (source : List UInt8) (start : Nat) (d : Directive) : List Char → Option Directive
  | [] => some d
  | '=' :: _ => readRank source (start + 1) d
  | _ => none

/-- Reads a span after an opening bracket that stands in front of an offset: its name, perhaps a
field between braces, and the end. With a field the name may be left out. -/
def readSpan (source : List UInt8) (start : Nat) (target : Option (List Char))
    (cs : List Char) : Option Directive :=
  let name := cs.takeWhile fun c => c != ']' && c != '\x7b'
  let stop := start + width name
  match cs.dropWhile fun c => c != ']' && c != '\x7b' with
  | ']' :: cs => do
    let span ← piece? source start stop
    readEnd source (stop + 1) ⟨target, some span, none, all⟩ cs
  | '\x7b' :: cs =>
    let field := cs.takeWhile (· != '\x7d')
    let fieldStop := stop + 1 + width field
    match cs.dropWhile (· != '\x7d') with
    | '\x7d' :: ']' :: cs => do
      let span ← piece? source start stop
      let field ← FieldTest.parse? (← piece? source (stop + 1) fieldStop)
      let span := if span.isEmpty then none else some span
      readEnd source (fieldStop + 2) ⟨target, span, some field, all⟩ cs
    | _ => none
  | _ => none

/-- The directive of a word by itself: a level, or else a target of which all is let through. -/
def ofWord (cs : List Char) : Directive :=
  match rank? cs with
  | some rank => ⟨none, none, none, rank⟩
  | none => ⟨some cs, none, none, all⟩

/-- Reads a directive that has no blanks around it. Its parts are taken from `source` at the
offsets at which they stand in the directive. -/
def read (source : List UInt8) : List Char → Option Directive
  | [] => none
  | '[' :: cs => readSpan source 1 none cs
  | c :: cs =>
    if canStart c then
      let word := (c :: cs).takeWhile fun c => c != '=' && c != '['
      let stop := width word
      match (c :: cs).dropWhile fun c => c != '=' && c != '[' with
      | [] => (rest? source 0).map ofWord
      | '[' :: cs => do readSpan source (stop + 1) (some (← piece? source 0 stop)) cs
      | _ => do readRank source (stop + 1) ⟨some (← piece? source 0 stop), none, none, all⟩
    else none

/-- Reads a directive. Its form is that of the text without the blanks around it, but its parts
are taken from the text with them, at the same offsets, so that blanks in front shift them. -/
def parse? (cs : List Char) : Option Directive :=
  read (Text.Utf8.encode cs) (Text.trim cs)

/-- Whether the directive is about the inside of spans. -/
def isScoped (d : Directive) : Bool := d.span.isSome || d.field.isSome

/-- Whether the directive is about events and spans by themselves. -/
def isPlain (d : Directive) : Bool :=
  d.span.isNone && d.field.all fun f => f.value.isNone

/-- Whether the directive asks for the value of a field. -/
def asksValue (d : Directive) : Bool := d.field.any fun f => f.value.isSome

/-- Whether a directive is for a target. -/
def isFor (target : String) (d : Directive) : Bool :=
  match d.target with
  | none => true
  | some start => start.isPrefixOf target.toList

/-- Whether the field that the directive asks for, if any, is among some fields. -/
def asksFor (fields : List String) (d : Directive) : Bool :=
  d.field.all fun f => fields.contains (String.ofList f.name)

/-- Whether two directives differ in nothing but the level. -/
def isAlike (d e : Directive) : Bool :=
  d.target = e.target && d.span = e.span && d.field = e.field

/-- How long the target is; no target is shorter than any. -/
def targetWeight (d : Directive) : Nat :=
  match d.target with
  | none => 0
  | some start => start.length + 1

/-- The name of the field that is asked for. -/
def fieldName (d : Directive) : List Char :=
  match d.field with
  | none => []
  | some f => f.name

/-- Whether a directive comes before another one: the one with the longer target, and with targets
alike the one whose field has the greater name. -/
def precedes (d e : Directive) : Bool :=
  e.targetWeight < d.targetWeight ||
    (e.targetWeight = d.targetWeight && !d.fieldName.lex e.fieldName (fun a b => a.val < b.val))

end Directive

end TunnelRelay.Cli
