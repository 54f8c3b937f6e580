import RemoteConfig.Number.Binary64

/-!
Contract: numbers written as plain text.

Owns:
- integers: an optional sign and decimal digits, nothing else;
- decimals: an optional sign, digits with an optional point, an optional exponent, and the names of
  the infinities and of the undefined number in any letter case.

Does not own: the stricter grammar of numbers in documents.
-/

namespace RemoteConfig.Number

def digitValue (character : Char) : Nat :=
  character.toNat - 48

def digitsValue (digits : List Char) : Nat :=
  digits.foldl (fun value digit => value * 10 + digitValue digit) 0

/-- Takes an optional sign off; the flag is set for a minus. -/
def takeSign : List Char → Bool × List Char
  | '-' :: rest => (true, rest)
  | '+' :: rest => (false, rest)
  | text => (false, text)

/-- An optional sign and at least one digit. -/
def integer? (text : List Char) : Option Int :=
  let (negative, digits) := takeSign text
  if digits.isEmpty || !digits.all Char.isDigit then none
  else if negative then some (-(digitsValue digits : Int))
  else some (digitsValue digits : Int)

/-- An integer in a range. -/
def integerWithin? (low high : Int) (text : List Char) : Option Int :=
  (integer? text).filter fun value => low ≤ value && value ≤ high

/-- A signed 64-bit integer. -/
def signed64? (text : List Char) : Option Int :=
  integerWithin? least64 greatest64 text

/-- An unsigned 64-bit integer; a minus sign is not part of its grammar. -/
def unsigned64? (text : List Char) : Option Int :=
  match text with
  | '-' :: _ => none
  | _ => integerWithin? 0 greatestUnsigned64 text

/-- The names of the numbers that have no digits, in lower case. -/
def namedNumber? (negative : Bool) (name : List Char) : Option Binary64 :=
  match String.ofList (name.map Char.toLower) with
  | "inf" => some (Binary64.infinity negative)
  | "infinity" => some (Binary64.infinity negative)
  | "nan" => some (if negative then ⟨Binary64.nan.bits + 0x8000000000000000⟩ else Binary64.nan)
  | _ => none

/-- The exponent part: empty, or a letter `e`, an optional sign and at least one digit. -/
def exponent? (text : List Char) : Option Int :=
  match text with
  | [] => some 0
  | mark :: rest =>
    if mark == 'e' || mark == 'E' then integer? rest else none

/-- A decimal, an infinity or the undefined number. -/
def decimal? (text : List Char) : Option Binary64 :=
  let (negative, body) := takeSign text
  match namedNumber? negative body with
  | some number => some number
  | none =>
    let whole := body.takeWhile Char.isDigit
    let afterWhole := body.dropWhile Char.isDigit
    let (fraction, afterFraction) := match afterWhole with
      | '.' :: rest => (rest.takeWhile Char.isDigit, rest.dropWhile Char.isDigit)
      | rest => ([], rest)
    if whole.isEmpty && fraction.isEmpty then none
    else (exponent? afterFraction).map fun power =>
      Binary64.ofDecimal negative (digitsValue (whole ++ fraction)) (power - fraction.length)

end RemoteConfig.Number
