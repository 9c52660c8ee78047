import TunnelRelay.Decimal.Binary64
/-!
# The fewest digits that read back

For a value of the binary format, `shortest` looks for the least number of decimal digits that
lie closer to the value than to any other value of the format, and takes the nearest such number
of that length. `FloatLayout` says how the digits are then written.
-/

namespace TunnelRelay.Decimal

/-- Digits `d₀d₁…` and an exponent: the number is `d₀.d₁… · 10 ^ exponent`. -/
structure Scientific where
  digits : List Char
  exponent : Int
  deriving DecidableEq

/-- The least `j` up to `fuel` with `den ≤ num · 10 ^ j`. -/
def tenfoldsBelowOne : Nat → Nat → Nat → Nat
  | 0, _, _ => 0
  | fuel + 1, num, den => if den ≤ num then 0 else tenfoldsBelowOne fuel (num * 10) den + 1

/-- The decimal exponent of a positive fraction: `10 ^ k ≤ num / den < 10 ^ (k + 1)`. -/
def decimalExponent (num den : Nat) : Int :=
  if den ≤ num then (Nat.toDigits 10 (num / den)).length - 1
  else -(tenfoldsBelowOne 400 num den : Int)

/-- The multiple of `10 ^ k` that lies in the interval of the fractions that round to `x`, the
nearer one where both neighbours of `x` do. The interval is given in quarters of the last binary
place; its ends belong to it iff the significand is even. -/
def gridPoint? (x : Binary64) (k : Int) : Option Nat :=
  let value := 4 * x.significand
  let least :=
    if x.significand = Nat.pow 2 52 ∧ Binary64.leastExponent < x.exponent then value - 1 else value - 2
  let greatest := value + 2
  let e := x.exponent - 2
  let num := Nat.pow 2 e.toNat * Nat.pow 10 (-k).toNat
  let den := Nat.pow 2 (-e).toNat * Nat.pow 10 k.toNat
  let below := value * num / den
  let inside (c : Nat) : Bool :=
    if x.significand % 2 = 0 then least * num ≤ c * den && c * den ≤ greatest * num
    else least * num < c * den && c * den < greatest * num
  let above := below + 1
  let rest := value * num - below * den
  let aboveIsNearer := den < 2 * rest || (den == 2 * rest && below % 2 == 1)
  if inside below && !(inside above && aboveIsNearer) then some below
  else if inside above then some above
  else none

/-- Tries the digit counts from `count` on, `fuel` of them. -/
def shortestFrom : Nat → Nat → Binary64 → Int → Option (Nat × Int)
  | 0, _, _, _ => none
  | fuel + 1, count, x, k =>
    match gridPoint? x (k - count + 1) with
    | some c => some (c, k - count + 1)
    | none => shortestFrom fuel (count + 1) x k

/-- The digits without the zeros at the end. -/
def dropTrailingZeros (digits : List Char) : List Char :=
  (digits.reverse.dropWhile (· == '0')).reverse

/-- The shortest decimal number that reads back as the value; zero is one digit. -/
def shortest (x : Binary64) : Scientific :=
  if x.significand = 0 then ⟨['0'], 0⟩
  else
    let k := decimalExponent x.toQuotient.1 x.toQuotient.2
    match shortestFrom 17 1 x k with
    | some (c, place) =>
      let digits := Nat.toDigits 10 c
      ⟨dropTrailingZeros digits, place + digits.length - 1⟩
    | none => ⟨['0'], 0⟩

/-- How the digits of a floating point number are laid out. -/
structure FloatLayout where
  /-- The least exponent that is written without an exponent. -/
  leastPositional : Int
  /-- The greatest exponent that is written without an exponent. -/
  greatestPositional : Int
  /-- The least number of digits of a written exponent. -/
  exponentWidth : Nat

/-- A number of at least `width` digits, zeros in front. -/
def padded (width n : Nat) : List Char :=
  let digits := Nat.toDigits 10 n
  List.replicate (width - digits.length) '0' ++ digits

/-- The number laid out; a positional one has at least one digit on either side of the point. -/
def FloatLayout.write (layout : FloatLayout) (x : Scientific) : List Char :=
  if layout.leastPositional ≤ x.exponent ∧ x.exponent ≤ layout.greatestPositional then
    if 0 ≤ x.exponent then
      let whole := x.exponent.toNat + 1
      let fraction := x.digits.drop whole
      x.digits.take whole ++ List.replicate (whole - x.digits.length) '0' ++ ['.'] ++
        (if fraction.isEmpty then ['0'] else fraction)
    else
      ['0', '.'] ++ List.replicate ((-x.exponent).toNat - 1) '0' ++ x.digits
  else
    let fraction := x.digits.drop 1
    let sign := if 0 ≤ x.exponent then '+' else '-'
    x.digits.take 1 ++ (if fraction.isEmpty then [] else '.' :: fraction) ++ ['e', sign] ++
      padded layout.exponentWidth x.exponent.natAbs

end TunnelRelay.Decimal
