/-!
# Binary floating point with 53 significant bits

A value is `significand · 2 ^ exponent`. Every operation is exact arithmetic on natural numbers
followed by one rounding to the nearest value of the format, a tie going to the even significand.
Values too large for the format have no result.
-/

namespace TunnelRelay.Decimal

/-- A value of the format that is not negative. A nonzero value has a significand of 53 bits, or
fewer with the least exponent, -1074. -/
structure Binary64 where
  significand : Nat
  exponent : Int
  deriving DecidableEq

namespace Binary64

/-- The least exponent. -/
def leastExponent : Int := -1074

/-- The greatest exponent. -/
def greatestExponent : Int := 971

/-- Zero. -/
def zero : Binary64 := ⟨0, leastExponent⟩

/-- The quotient of two numbers rounded to the nearest, a tie to the even one. -/
def roundQuotient (num den : Nat) : Nat :=
  let q := num / den
  let r := num % den
  if den < 2 * r ∨ (2 * r = den ∧ q % 2 = 1) then q + 1 else q

/-- The fraction `num / den` divided by `2 ^ e`. -/
def unscale (num den : Nat) (e : Int) : Nat × Nat :=
  if 0 ≤ e then (num, den * Nat.pow 2 e.toNat) else (num * Nat.pow 2 (-e).toNat, den)

/-- The value nearest to `num / den`, if the format reaches that far. -/
def ofQuotient? (num den : Nat) : Option Binary64 :=
  if num = 0 ∨ den = 0 then some zero
  else
    let guess : Int := (Nat.log2 num : Int) - (Nat.log2 den : Int) - 52
    let scaled := unscale num den guess
    let e := if scaled.1 / scaled.2 < Nat.pow 2 52 then guess - 1 else guess
    let e := if e < leastExponent then leastExponent else e
    let scaled := unscale num den e
    let m := roundQuotient scaled.1 scaled.2
    let value : Binary64 := if m = Nat.pow 2 53 then ⟨Nat.pow 2 52, e + 1⟩ else ⟨m, e⟩
    if greatestExponent < value.exponent then none else some value

/-- The value as a fraction. -/
def toQuotient (x : Binary64) : Nat × Nat :=
  if 0 ≤ x.exponent then (x.significand * Nat.pow 2 x.exponent.toNat, 1)
  else (x.significand, Nat.pow 2 (-x.exponent).toNat)

/-- The rounded product. -/
def mul? (x y : Binary64) : Option Binary64 :=
  ofQuotient? (x.toQuotient.1 * y.toQuotient.1) (x.toQuotient.2 * y.toQuotient.2)

/-- The rounded quotient, for a divisor that is not zero. -/
def div? (x y : Binary64) : Option Binary64 :=
  ofQuotient? (x.toQuotient.1 * y.toQuotient.2) (x.toQuotient.2 * y.toQuotient.1)

/-- The value nearest to a natural number. -/
def ofNat? (n : Nat) : Option Binary64 := ofQuotient? n 1

/-- The value nearest to a power of ten. -/
def powerOfTen? (k : Nat) : Option Binary64 := ofQuotient? (Nat.pow 10 k) 1

/-- Divides by `10 ^ 308`, up to `steps` times, while the exponent is below -308, and then by what
is left. -/
def divideByPowers : Nat → Binary64 → Nat → Option Binary64
  | 0, x, _ => some x
  | steps + 1, x, k =>
    if k ≤ 308 then do x.div? (← powerOfTen? k)
    else if x.significand = 0 then some x
    else do divideByPowers steps (← x.div? (← powerOfTen? 308)) (k - 308)

/-- The value read for `significand · 10 ^ exponent`: the significand is rounded first, and each
multiplication or division by a power of ten rounds again. Four divisions by `10 ^ 308` take every
value of the format to zero. -/
def ofScientific? (significand : Nat) (exponent : Int) : Option Binary64 := do
  let x ← ofNat? significand
  if 0 ≤ exponent then
    if exponent ≤ 308 then x.mul? (← powerOfTen? exponent.toNat)
    else if x.significand = 0 then some x
    else none
  else divideByPowers 4 x (-exponent).toNat

end Binary64

end TunnelRelay.Decimal
