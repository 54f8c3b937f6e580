/-!
Contract: the ASCII form of labels of domain names.

Owns:
- encoding a label into the generalized variable-length integers of its characters;
- decoding such a label.

Does not own: which characters a label may hold, and the mark `xn--`.
-/

namespace RemoteConfig.Punycode

def digit (value : Nat) : Char :=
  if value < 26 then Char.ofNat (97 + value) else Char.ofNat (22 + value)

/-- The value of a digit. -/
def value? (character : Char) : Option Nat :=
  if character.isDigit then some (character.toNat - 22)
  else if 'a' ≤ character ∧ character ≤ 'z' then some (character.toNat - 97)
  else if 'A' ≤ character ∧ character ≤ 'Z' then some (character.toNat - 65)
  else none

/-- Halves a delta until it is small, counting the steps in 36ths; the bound is the number of steps
that may still be taken. -/
def adaptLoop : Nat → Nat → Nat → Nat
  | 0, delta, steps => steps + 36 * delta / (delta + 38)
  | bound + 1, delta, steps =>
    if delta > 455 then adaptLoop bound (delta / 35) (steps + 36)
    else steps + 36 * delta / (delta + 38)

/-- The new bias after a delta. -/
def adapt (delta points : Nat) (first : Bool) : Nat :=
  let delta := if first then delta / 700 else delta / 2
  adaptLoop (delta + 1) (delta + delta / points) 0

def threshold (position bias : Nat) : Nat :=
  if position ≤ bias then 1 else min 26 (position - bias)

/-- The digits of a delta; each digit shortens the delta, so it bounds their number. -/
def deltaDigits (bias : Nat) : Nat → Nat → Nat → List Char
  | 0, _, _ => []
  | bound + 1, position, delta =>
    let limit := threshold position bias
    if delta < limit then [digit delta]
    else
      digit (limit + (delta - limit) % (36 - limit))
        :: deltaDigits bias bound (position + 36) ((delta - limit) / (36 - limit))

/-- Where the encoding of a label stands between two of its characters. -/
structure Progress where
  delta : Nat
  handled : Nat
  bias : Nat
  written : List Char

/-- Passes one character of the label while the characters with one number are inserted. -/
def encodeStep (code basic : Nat) (progress : Progress) (character : Char) : Progress :=
  if character.toNat < code then { progress with delta := progress.delta + 1 }
  else if character.toNat = code then
    { delta := 0
      handled := progress.handled + 1
      bias := adapt progress.delta (progress.handled + 1) (progress.handled == basic)
      written :=
        progress.written ++ deltaDigits progress.bias (progress.delta + 1) 36 progress.delta }
  else progress

/-- Inserts the characters beyond ASCII in ascending order of their numbers. -/
def encodeLoop (label : List Char) (basic : Nat) : List Nat → Nat → Progress → Progress
  | [], _, progress => progress
  | code :: codes, next, progress =>
    let progress :=
      { progress with delta := progress.delta + (code - next) * (progress.handled + 1) }
    let progress := label.foldl (encodeStep code basic) progress
    encodeLoop label basic codes (code + 1) { progress with delta := progress.delta + 1 }

/-- The ASCII form of a label, without the mark. -/
def encode (label : List Char) : List Char :=
  let basic := label.filter fun character => character.toNat < 0x80
  let codes := (label.filter fun character => 0x80 ≤ character.toNat).map Char.toNat
  let codes := (codes.mergeSort (· ≤ ·)).eraseDups
  let start : Progress :=
    ⟨0, basic.length, 72, basic ++ if basic.isEmpty then [] else ['-']⟩
  (encodeLoop label basic.length codes 0x80 start).written

/-- Reads one delta off the digits; the weight grows with every digit. -/
def readDelta (bias : Nat) : List Char → Nat → Nat → Nat → Option (Nat × List Char)
  | [], _, _, _ => none
  | character :: rest, position, weight, delta => do
    let found ← value? character
    let delta := delta + found * weight
    let limit := threshold position bias
    if found < limit then pure (delta, rest)
    else readDelta bias rest (position + 36) (weight * (36 - limit)) delta

/-- Inserts characters until the digits are used up; every insertion uses a digit, so their number
bounds the insertions. -/
def decodeLoop : Nat → List Char → Nat → Nat → Nat → Bool → List Char → Option (List Char)
  | _, [], _, _, _, _, label => some label
  | 0, _ :: _, _, _, _, _, _ => none
  | bound + 1, digits, code, position, bias, first, label => do
    let (delta, rest) ← readDelta bias digits 36 1 0
    let points := label.length + 1
    let reached := position + delta
    let code := code + reached / points
    let position := reached % points
    if code > 0x10FFFF || (0xD800 ≤ code && code < 0xE000) then none
    else
      decodeLoop bound rest code (position + 1) (adapt delta points first) false
        (label.take position ++ Char.ofNat code :: label.drop position)

/-- The label of an ASCII form, without the mark. -/
def decode? (text : List Char) : Option (List Char) :=
  if text.any fun character => 0x80 ≤ character.toNat then none
  else
    let reversed := text.reverse
    let digits := (reversed.takeWhile fun character => character != '-').reverse
    let basic := ((reversed.dropWhile fun character => character != '-').drop 1).reverse
    decodeLoop digits.length digits 0x80 0 72 true basic

end RemoteConfig.Punycode
