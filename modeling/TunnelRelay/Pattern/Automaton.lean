import TunnelRelay.Pattern.Expr
/-!
# Running regular expressions

An expression becomes a list of numbered steps. Threads walk through the steps side by side, one
character of the text after the other, in order of preference. Before each character one more
thread is started, which is the least preferred. When a thread is through, those after it are given
up and no more are started, while those before it go on and may still get further. A text is
accepted if a thread gets through just at its end.
-/

namespace TunnelRelay.Pattern

/-- A step. Steps are named by their numbers. -/
inductive Step where
  /-- Takes one character of a set. -/
  | take (s : CharSet) (next : Nat)
  /-- Goes on only where the condition holds. -/
  | require (a : Anchor) (next : Nat)
  /-- Goes both ways, the first one preferred. -/
  | fork (first second : Nat)
  /-- The end. -/
  | done
  deriving DecidableEq

/-- The steps of an expression. -/
structure Automaton where
  steps : Array Step
  start : Nat
  deriving DecidableEq

namespace Automaton

/-- Adds a step to others; its number goes with them. -/
def add (steps : Array Step) (s : Step) : Nat × Array Step := (steps.size, steps.push s)

/-- The fork at which a repetition goes on or stops. -/
def crossing (isGreedy : Bool) (onward stop : Nat) : Step :=
  if isGreedy then .fork onward stop else .fork stop onward

/-- Adds the steps of an expression, after which it goes on at `next`. The number is that of the
first one. -/
def compile : Expr → Nat → Array Step → Nat × Array Step
  | .empty, next, steps => (next, steps)
  | .literal cs, next, steps =>
    cs.foldr (fun c (next, steps) => add steps (.take (.single c) next)) (next, steps)
  | .set s, next, steps => add steps (.take s next)
  | .anchor a, next, steps => add steps (.require a next)
  | .group _ e, next, steps => compile e next steps
  | .seq p q, next, steps =>
    let (middle, steps) := compile q next steps
    compile p middle steps
  | .alt p q, next, steps =>
    let (first, steps) := compile p next steps
    let (second, steps) := compile q next steps
    add steps (.fork first second)
  | .repeated .atMostOnce isGreedy e, next, steps =>
    let (first, steps) := compile e next steps
    add steps (crossing isGreedy first next)
  | .repeated .atLeastOnce isGreedy e, next, steps =>
    let (again, steps) := add steps .done
    let (first, steps) := compile e again steps
    (first, steps.setIfInBounds again (crossing isGreedy first next))
  | .repeated .anyNumber isGreedy e, next, steps =>
    let (again, steps) := add steps .done
    let (first, steps) := compile e again steps
    add (steps.setIfInBounds again (crossing isGreedy first next)) (crossing isGreedy first next)

/-- The automaton of an expression. -/
def ofExpr (e : Expr) : Automaton :=
  let (start, steps) := compile e 0 #[.done]
  ⟨steps, start⟩

/-- Goes from a step wherever it leads without taking a character. The steps on the way are put in
front of those that have been seen, which are not gone to again. No way is longer than there are
steps, which is the bound for `fuel`. -/
def visit (a : Automaton) (before after : Option Char) : Nat → List Nat → Nat → List Nat
  | 0, seen, _ => seen
  | fuel + 1, seen, n =>
    if seen.contains n then seen
    else
      match a.steps[n]? with
      | some (.fork first second) =>
        visit a before after fuel (visit a before after fuel (n :: seen) first) second
      | some (.require anchor next) =>
        if anchor.holds before after then visit a before after fuel (n :: seen) next
        else n :: seen
      | _ => n :: seen

/-- The steps that threads at some steps get to between two characters, in order of preference. -/
def reached (a : Automaton) (before after : Option Char) (threads : List Nat) : List Nat :=
  (threads.foldl (visit a before after a.steps.size) []).reverse

/-- Whether a step is the end. -/
def isDone (a : Automaton) (n : Nat) : Bool := a.steps[n]? == some .done

/-- Where a step leads with a character. -/
def afterTaking (a : Automaton) (c : Char) (n : Nat) : Option Nat :=
  match a.steps[n]? with
  | some (.take s next) => if s.contains c then some next else none
  | _ => none

/-- Whether a thread that is started within the bytes of a character gets through at once. What
lies around it is neither the end of the text or of a line nor a character of a word. -/
def isDoneWithin (a : Automaton) (c : Char) : Bool :=
  0x7F < c.toNat && (a.reached (some c) (some c) [a.start]).any a.isDone

/-- Runs threads over the rest of a text; `isStarting` tells whether more are started. -/
def run (a : Automaton) (before : Option Char) (threads : List Nat) (isStarting : Bool) :
    List Char → Bool
  | [] =>
    let threads := if isStarting then threads ++ [a.start] else threads
    (a.reached before none threads).any a.isDone
  | c :: cs =>
    let threads := if isStarting then threads ++ [a.start] else threads
    let steps := a.reached before (some c) threads
    let kept := steps.takeWhile fun n => !a.isDone n
    let isStarting := isStarting && kept.length == steps.length && !a.isDoneWithin c
    run a (some c) (kept.filterMap (a.afterTaking c)) isStarting cs

/-- Whether a text is accepted. -/
def accepts (a : Automaton) (cs : List Char) : Bool := a.run none [] true cs

end Automaton

end TunnelRelay.Pattern
