import RemoteConfig.Number.Binary64

/-!
Contract: the shortest decimal that reads back as a given 64-bit number, and the two ways in which
this library writes it.

Owns:
- the interval of decimals that round to a number, and the shortest decimal in it, with two rules for a
  number halfway between two of them;
- positional text, which is how a number is shown as plain text;
- document text, which always shows a point or an exponent.

Does not own: reading decimals.
-/

namespace RemoteConfig

/-- A positive decimal `digits * 10 ^ power`. -/
structure Decimal where
  digits : Nat
  power : Int
deriving DecidableEq, Repr, Inhabited

namespace Decimal

/-- Moves trailing zeros of the digits into the power; at most `fuel` of them. -/
def stripZeros : Nat → Decimal → Decimal
  | 0, decimal => decimal
  | fuel + 1, decimal =>
    if decimal.digits ≠ 0 ∧ decimal.digits % 10 = 0 then
      stripZeros fuel ⟨decimal.digits / 10, decimal.power + 1⟩
    else decimal

/-- The digits of a natural number in base ten. -/
def digitChars (value : Nat) : List Char :=
  Nat.toDigits 10 value

end Decimal

namespace Binary64

open Number (twoTo tenTo)

/-- `numerator / denominator` compared with ten to a power: is the quotient at least that large? -/
def atLeastPowerOfTen (numerator denominator : Nat) (power : Int) : Bool :=
  if 0 ≤ power then denominator * tenTo power.toNat ≤ numerator
  else denominator ≤ numerator * tenTo (-power).toNat

/-- The largest power of ten that is not above the quotient.

The bit lengths give an estimate that is off by at most one. -/
def decimalExponent (numerator denominator : Nat) : Int :=
  let estimate : Int := ((numerator.log2 : Int) - denominator.log2) * 30103 / 100000
  if atLeastPowerOfTen numerator denominator (estimate + 1) then estimate + 1
  else if atLeastPowerOfTen numerator denominator estimate then estimate
  else estimate - 1

/-- Which neighbour a number takes that is halfway between both. -/
inductive Halfway where
  | up
  | toEven
deriving DecidableEq, Repr

/-- Does a number halfway above a neighbour take that one? -/
def Halfway.takesBelow (halfway : Halfway) (below : Nat) : Bool :=
  match halfway with
  | up => false
  | toEven => below % 2 == 0

/-- The decimals on one grid that round to the number, given the number and its interval in
quarter units over one denominator: of the two neighbours of the number, the nearer that lies in
the interval. -/
def nearestOnGrid (halfway : Halfway) (low value high denominator : Nat) (closed : Bool)
    (power : Int) : Option Nat :=
  let (unit, denominatorScale) : Nat × Nat :=
    if 0 ≤ power then (denominator * tenTo power.toNat, 1) else (denominator, tenTo (-power).toNat)
  let low := low * denominatorScale
  let value := value * denominatorScale
  let high := high * denominatorScale
  let below := value / unit
  let above := below + 1
  let inside (point : Nat) : Bool :=
    let scaled := point * unit
    point != 0 && (if closed then low ≤ scaled && scaled ≤ high else low < scaled && scaled < high)
  let twice := 2 * (value - below * unit)
  let belowNearer := twice < unit || (twice == unit && halfway.takesBelow below)
  match inside below, inside above with
  | true, true => some (if belowNearer then below else above)
  | true, false => some below
  | false, true => some above
  | false, false => none

/-- Tries ever finer grids, starting with one digit. -/
def searchGrids (halfway : Halfway) (low value high denominator : Nat) (closed : Bool)
    (leading : Int) : Nat → Nat → Decimal
  | _, 0 => ⟨value / denominator, 0⟩
  | used, remaining + 1 =>
    let power := leading - used
    match nearestOnGrid halfway low value high denominator closed power with
    | some digits => ⟨digits, power⟩
    | none => searchGrids halfway low value high denominator closed leading (used + 1) remaining

/-- The shortest decimal that rounds to a finite number other than zero. -/
def shortestDecimal (halfway : Halfway) (number : Binary64) : Decimal :=
  let (significand, exponent) := number.decoded
  let unit : Nat := if 0 ≤ exponent then twoTo exponent.toNat else 1
  let denominator : Nat := 4 * (if 0 ≤ exponent then 1 else twoTo (-exponent).toNat)
  let value := 4 * significand * unit
  let gapBelow := if significand = twoTo 52 ∧ exponent ≠ -1074 then unit else 2 * unit
  let leading := decimalExponent value denominator
  (searchGrids halfway (value - gapBelow) value (value + 2 * unit) denominator
    (significand % 2 == 0) leading 0 18).stripZeros 400

/-- The digits of a decimal with the point set `before` places after the first digit. -/
def positional (digits : List Char) (before : Int) : List Char :=
  if before ≤ 0 then ['0', '.'] ++ List.replicate (-before).toNat '0' ++ digits
  else if before ≥ digits.length then digits ++ List.replicate (before.toNat - digits.length) '0'
  else digits.take before.toNat ++ ['.'] ++ digits.drop before.toNat

/-- A leading minus for a negative number, negative zero included. -/
def signChars (number : Binary64) : List Char :=
  if number.isNegative then ['-'] else []

/-- Plain text: positional at any size, without a point for an integer. Halfway goes up. -/
def plainText (number : Binary64) : String :=
  if number.isNaN then "NaN"
  else if !number.isFinite then String.ofList (number.signChars ++ ['i', 'n', 'f'])
  else if number.isZero then String.ofList (number.signChars ++ ['0'])
  else
    let decimal := number.shortestDecimal .up
    let digits := Decimal.digitChars decimal.digits
    String.ofList (number.signChars ++ positional digits (digits.length + decimal.power))

/-- Document text of a finite number: positional from `1e-5` up to `1e16` with a point always
shown, and with an exponent, always signed, beyond. Halfway goes to the even digit. -/
def documentText (number : Binary64) : String :=
  if number.isZero then String.ofList (number.signChars ++ ['0', '.', '0'])
  else
    let decimal := number.shortestDecimal .toEven
    let digits := Decimal.digitChars decimal.digits
    let before : Int := digits.length + decimal.power
    let body : List Char :=
      if -5 < before ∧ before ≤ 16 then
        positional digits before ++ (if before ≥ digits.length then ['.', '0'] else [])
      else
        let sign : List Char := if before ≥ 1 then ['+'] else []
        let exponent := sign ++ (toString (before - 1)).toList
        match digits with
        | [] => ['0', '.', '0']
        | [single] => [single, 'e'] ++ exponent
        | first :: others => first :: '.' :: others ++ ['e'] ++ exponent
    String.ofList (number.signChars ++ body)

end Binary64

end RemoteConfig
