import RemoteConfig.Text.Split
import RemoteConfig.Json.Reader

/-!
Contract: network addresses as the hosts of locators.

Owns:
- addresses of 32 bits: their lenient readings (one to four parts, in base eight, ten or sixteen)
  and their dotted text;
- addresses of 128 bits: their readings, with one run of zeros left out or a dotted tail, and their
  shortest text;
- the rule by which a name has to be such an address.

Does not own: names of domains.
-/

namespace RemoteConfig.Address

/-- The value of digits in a base; nothing when there is a character that is no digit of it. -/
def valueIn? (base : Nat) (digits : List Char) : Option Nat :=
  digits.foldlM (fun value digit =>
    (Json.Reader.hexValue? digit).bind fun found =>
      if found < base then some (value * base + found) else none) 0

/-- One part of a dotted address: `0x` announces base sixteen, another leading zero base eight. -/
def part? : List Char → Option Nat
  | [] => none
  | ['0'] => some 0
  | '0' :: 'x' :: digits => valueIn? 16 digits
  | '0' :: 'X' :: digits => valueIn? 16 digits
  | '0' :: digits => valueIn? 8 digits
  | digits => valueIn? 10 digits

/-- The parts between dots, without an empty last one. -/
def parts (text : List Char) : List (List Char) :=
  let parts := Text.splitChars '.' text
  if parts.getLast? == some [] then parts.dropLast else parts

/-- A name whose last part is a number has to be an address. -/
def endsInNumber (text : List Char) : Bool :=
  match (parts text).getLast? with
  | none => false
  | some last => (!last.isEmpty && last.all Char.isDigit) || (part? last).isSome

/-- The address that parts stand for: the last one fills all the bytes that are left. -/
def combine? (values : List Nat) : Option Nat :=
  let leading := values.dropLast
  let last := values.getLastD 0
  if values.length > 4 || leading.any (fun value => value > 255)
      || last ≥ Nat.pow 256 (4 - leading.length) then none
  else
    some (leading.zipIdx.foldl (fun sum (value, position) => sum + value * Nat.pow 256 (3 - position)) last)

/-- An address of 32 bits. -/
def ofDotted? (text : List Char) : Option Nat :=
  ((parts text).mapM part?).bind fun values => if values.isEmpty then none else combine? values

/-- The four bytes of an address, joined by dots. -/
def dottedText (address : Nat) : String :=
  Text.join "." <| [address / Number.twoTo 24, address / Number.twoTo 16 % 256, address / 256 % 256, address % 256].map
    toString

/-- A byte written in base ten without leading zeros. -/
def plainByte? (digits : List Char) : Option Nat :=
  if digits.isEmpty || !digits.all Char.isDigit || (digits.length > 1 && digits.head? == some '0') then
    none
  else (valueIn? 10 digits).filter (· ≤ 255)

/-- A dotted tail of an address of 128 bits, as two groups. -/
def dottedTail? (text : List Char) : Option (List Nat) :=
  match (Text.splitChars '.' text).mapM plainByte? with
  | some [a, b, c, d] => some [a * 256 + b, c * 256 + d]
  | _ => none

def group? (digits : List Char) : Option Nat :=
  if digits.isEmpty || digits.length > 4 then none else valueIn? 16 digits

/-- Groups between colons; the last one may be a dotted tail where that is allowed. -/
def groups? (tailAllowed : Bool) : List (List Char) → Option (List Nat)
  | [] => some []
  | [last] =>
    if last.contains '.' then (if tailAllowed then dottedTail? last else none)
    else (group? last).map fun value => [value]
  | first :: rest => do
    let value ← group? first
    let values ← groups? tailAllowed rest
    pure (value :: values)

/-- Splits at the first pair of colons. -/
def splitGap : List Char → Option (List Char × List Char)
  | ':' :: ':' :: rest => some ([], rest)
  | character :: rest => (splitGap rest).map fun (before, after) => (character :: before, after)
  | [] => none

/-- The groups of a side of the gap; an empty side has none. -/
def side? (tailAllowed : Bool) (text : List Char) : Option (List Nat) :=
  if text.isEmpty then some [] else groups? tailAllowed (Text.splitChars ':' text)

/-- An address of 128 bits, as eight groups. -/
def ofGroups? (text : List Char) : Option (List Nat) :=
  match splitGap text with
  | none => (groups? true (Text.splitChars ':' text)).filter fun groups => groups.length = 8
  | some (before, after) => do
    let leading ← side? false before
    let trailing ← side? true after
    if leading.length + trailing.length < 8 then
      some (leading ++ List.replicate (8 - leading.length - trailing.length) 0 ++ trailing)
    else none

/-- The length of the run of zeros at the front. -/
def zeroRun (groups : List Nat) : Nat :=
  (groups.takeWhile (· == 0)).length

/-- Where the longest run of zeros starts, and its length; the first of equal ones. -/
def longestZeroRun (groups : List Nat) : Nat × Nat :=
  (List.range groups.length).foldl (fun best start =>
    let length := zeroRun (groups.drop start)
    if length > best.2 then (start, length) else best) (0, 0)

/-- Groups in base sixteen, joined by colons. -/
def groupsJoined (groups : List Nat) : String :=
  Text.join ":" (groups.map fun group => String.ofList (Nat.toDigits 16 group))

/-- The shortest text: the longest run of at least two zeros is left out. -/
def groupsText (groups : List Nat) : String :=
  let (start, length) := longestZeroRun groups
  if length < 2 then groupsJoined groups
  else groupsJoined (groups.take start) ++ "::" ++ groupsJoined (groups.drop (start + length))

end RemoteConfig.Address
