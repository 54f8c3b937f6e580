import RemoteConfig.Number.Bounds

/-!
Contract: the 64-bit binary floating-point numbers of IEEE 754, held as their bits, with exact
arithmetic on natural numbers for every conversion.

Owns:
- the decoded form `significand * 2 ^ exponent` of a finite number;
- rounding a quotient of natural numbers, or a decimal, to the nearest number, ties to even;
- conversion from and to integers.

Does not own: the text of a number.
-/

namespace RemoteConfig

/-- A 64-bit binary floating-point number. -/
structure Binary64 where
  bits : UInt64
deriving DecidableEq, Repr, Inhabited

namespace Binary64

open Number (twoTo tenTo)

/-- The sign bit; set for negative zero as well. -/
def isNegative (number : Binary64) : Bool :=
  number.bits.toNat ≥ twoTo 63

def exponentField (number : Binary64) : Nat :=
  number.bits.toNat / twoTo 52 % twoTo 11

def fractionField (number : Binary64) : Nat :=
  number.bits.toNat % twoTo 52

def isFinite (number : Binary64) : Bool :=
  number.exponentField != 2047

def isNaN (number : Binary64) : Bool :=
  number.exponentField == 2047 && number.fractionField != 0

def isZero (number : Binary64) : Bool :=
  number.bits.toNat % twoTo 63 == 0

/-- The magnitude of a finite number as `significand * 2 ^ exponent`. -/
def decoded (number : Binary64) : Nat × Int :=
  if number.exponentField = 0 then (number.fractionField, -1074)
  else (twoTo 52 + number.fractionField, (number.exponentField : Int) - 1075)

/-- Assembles a number from a sign and the 63 low bits. -/
def ofMagnitude (negative : Bool) (magnitude : Nat) : Binary64 :=
  ⟨UInt64.ofNat (magnitude + if negative then twoTo 63 else 0)⟩

def infinity (negative : Bool) : Binary64 :=
  ofMagnitude negative (2047 * twoTo 52)

def zero (negative : Bool) : Binary64 :=
  ofMagnitude negative 0

def nan : Binary64 :=
  ofMagnitude false (2047 * twoTo 52 + twoTo 51)

/-- The integer nearest to a quotient; a tie goes to the even neighbour. -/
def roundQuotient (numerator denominator : Nat) : Nat :=
  let quotient := numerator / denominator
  let twice := 2 * (numerator % denominator)
  if denominator < twice || (twice == denominator && quotient % 2 == 1) then quotient + 1
  else quotient

/-- `numerator / denominator` divided by `2 ^ exponent`, rounded to the nearest integer. -/
def scaledQuotient (numerator denominator : Nat) (exponent : Int) : Nat :=
  if 0 ≤ exponent then roundQuotient numerator (denominator * twoTo exponent.toNat)
  else roundQuotient (numerator * twoTo (-exponent).toNat) denominator

/-- The number nearest to `numerator / denominator`, ties to even, overflowing to infinity.

The exponent is chosen so that the rounded significand has 53 bits, or is that of the subnormal
numbers. -/
def ofQuotient (negative : Bool) (numerator denominator : Nat) : Binary64 :=
  if numerator = 0 then zero negative
  else
    let estimate : Int := (numerator.log2 : Int) - denominator.log2 - 52
    let floorQuotient :=
      if 0 ≤ estimate then numerator / (denominator * twoTo estimate.toNat)
      else numerator * twoTo (-estimate).toNat / denominator
    let exact := if floorQuotient < twoTo 52 then estimate - 1 else estimate
    let exponent := max exact (-1074)
    let significand := scaledQuotient numerator denominator exponent
    let carried := significand == twoTo 53
    let exponent := if carried then exponent + 1 else exponent
    let significand := if carried then twoTo 52 else significand
    if significand < twoTo 52 then ofMagnitude negative significand
    else if exponent + 1075 ≥ 2047 then infinity negative
    else ofMagnitude negative ((exponent + 1075).toNat * twoTo 52 + (significand - twoTo 52))

/-- The number nearest to `digits * 10 ^ power`.

Powers outside the range of the format are decided before any large power is formed. -/
def ofDecimal (negative : Bool) (digits : Nat) (power : Int) : Binary64 :=
  if digits = 0 then zero negative
  else if power > 400 then infinity negative
  else if power < -(400 + (digits.log2 : Int)) then zero negative
  else if 0 ≤ power then ofQuotient negative (digits * tenTo power.toNat) 1
  else ofQuotient negative digits (tenTo (-power).toNat)

/-- The number nearest to an integer. -/
def ofInt (value : Int) : Binary64 :=
  ofQuotient (value < 0) value.natAbs 1

/-- The integer nearest to a finite number; a half goes away from zero. -/
def roundedInt (number : Binary64) : Int :=
  let (significand, exponent) := number.decoded
  let magnitude : Nat :=
    if 0 ≤ exponent then significand * twoTo exponent.toNat
    else (2 * significand + twoTo (-exponent).toNat) / twoTo ((-exponent).toNat + 1)
  if number.isNegative then -(magnitude : Int) else magnitude

/-- Rounds to an integer and clamps it into a range; an undefined number becomes zero. -/
def clampedInt (number : Binary64) (low high : Int) : Int :=
  if number.isNaN then 0
  else if !number.isFinite then (if number.isNegative then low else high)
  else max low (min high number.roundedInt)

end Binary64

end RemoteConfig
