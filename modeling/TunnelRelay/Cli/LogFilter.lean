import TunnelRelay.Cli.Directive
/-!
# Log filters

A filter is a list of directives, separated by commas; of two that differ only in the level the
later one counts. An event is let through by the directive that is most specific about it, or by
the level that holds inside the span it is in. No event and no span is let through above the
ceiling, the greatest level that any directive names, except that a directive that asks for the
value of a field lifts the ceiling altogether.
-/

namespace TunnelRelay.Cli

/-- A filter. -/
structure LogFilter where
  directives : List Directive
  deriving DecidableEq

namespace LogFilter

/-- The filter that a text describes. Empty parts are skipped. -/
def parse? (text : String) : Option LogFilter :=
  let parts := (Text.splitAt ',' text.toList).filter fun part => !part.isEmpty
  (parts.mapM Directive.parse?).map (⟨·⟩)

/-- The filter that lets events up to a level through. -/
def upTo (level : Level) : LogFilter := ⟨[⟨none, none, none, level.rank⟩]⟩

/-- The directives without those that a later one replaces. -/
def latest : List Directive → List Directive
  | [] => []
  | d :: ds => if ds.any d.isAlike then latest ds else d :: latest ds

/-- The greatest rank that can be let through at all. -/
def ceiling (f : LogFilter) : Nat :=
  if f.directives.any Directive.asksValue then Directive.all
  else (f.directives.map Directive.greatest).max?.getD 0

/-- The first in order of some directives. -/
def foremost : List Directive → Option Directive
  | [] => none
  | d :: ds =>
    match foremost ds with
    | none => some d
    | some e => if d.precedes e then some d else some e

/-- The greatest rank that the foremost of some directives lets through. -/
def greatestOf (ds : List Directive) : Nat :=
  match foremost ds with
  | none => 0
  | some d => d.greatest

/-- The greatest rank of an event with these fields that is let through for a target. -/
def greatestFor (f : LogFilter) (target : String) (fields : List String) : Nat :=
  greatestOf ((latest f.directives).filter fun d =>
    d.isPlain && d.isFor target && d.asksFor fields)

/-- The greatest rank of a span that is let through for a target, whatever its fields. -/
def greatestForSpans (f : LogFilter) (target : String) : Nat :=
  greatestOf ((latest f.directives).filter fun d => d.isPlain && d.isFor target)

/-- Whether a directive names a span: its name, its target and one of its fields. -/
def namesSpan (span target : String) (fields : List (String × LogValue)) (d : Directive) : Bool :=
  d.isScoped && d.isFor target && d.span.all (· == span.toList) &&
    d.asksFor (fields.map Prod.fst)

/-- Whether the value that a directive asks for, if any, is among some fields. -/
def acceptsValues (fields : List (String × LogValue)) (d : Directive) : Bool :=
  d.field.all fun test => test.value.all fun pattern =>
    fields.any fun (name, value) => name.toList == test.name && pattern.isMatch value

/-- The greatest rank that is let through inside a span, if a directive names the span. -/
def greatestIn (f : LogFilter) (span target : String) (fields : List (String × LogValue)) :
    Option Nat :=
  match (latest f.directives).filter (namesSpan span target fields) with
  | [] => none
  | ds => some (((ds.filter (acceptsValues fields)).map Directive.greatest).max?.getD 0)

end LogFilter

end TunnelRelay.Cli
