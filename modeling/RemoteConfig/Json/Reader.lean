import RemoteConfig.Json.Basic
import RemoteConfig.Number.Reading

/-!
Contract: reading the text of a document.

Owns:
- the grammar of values, with at most 127 nested lists and objects;
- strings with their escapes, in which a lone surrogate is refused;
- numbers: an integer literal in the range of 64 bits stays an integer, any other literal, and
  `-0`, becomes a double, and a literal beyond the doubles is refused.

Does not own: the order of object fields, which is kept as written together with repeated keys.
-/

namespace RemoteConfig.Json.Reader

/-- What is left of the text after a value has been read. -/
abbrev Rest := List Char

/-- A reading of a value that starts the text, in which a number of lists and objects may still be
nested. -/
abbrev Reading := Nat → List Char → Option (Json × Rest)

/-- The blanks that may stand between tokens. -/
def isSpace (character : Char) : Bool :=
  character == ' ' || character == '\t' || character == '\n' || character == '\r'

def skipSpace (text : List Char) : List Char :=
  text.dropWhile isSpace

/-- Takes one given word off the front. -/
def word? (expected : List Char) (text : List Char) : Option Rest :=
  if expected.isPrefixOf text then some (text.drop expected.length) else none

def hexValue? (character : Char) : Option Nat :=
  if character.isDigit then some (character.toNat - 48)
  else if 'a' ≤ character ∧ character ≤ 'f' then some (character.toNat - 87)
  else if 'A' ≤ character ∧ character ≤ 'F' then some (character.toNat - 55)
  else none

/-- Four hexadecimal digits. -/
def hex4? : List Char → Option (Nat × Rest)
  | a :: b :: c :: d :: rest => do
    let first ← hexValue? a
    let second ← hexValue? b
    let third ← hexValue? c
    let fourth ← hexValue? d
    pure (((first * 16 + second) * 16 + third) * 16 + fourth, rest)
  | _ => none

def isHighSurrogate (unit : Nat) : Bool :=
  0xD800 ≤ unit && unit < 0xDC00

def isLowSurrogate (unit : Nat) : Bool :=
  0xDC00 ≤ unit && unit < 0xE000

/-- The character of a unit escape, after its letter `u`; two units form one character when they
are a surrogate pair. -/
def unitEscape? (text : List Char) : Option (Char × Rest) := do
  let (unit, rest) ← hex4? text
  if isLowSurrogate unit then none
  else if isHighSurrogate unit then
    match rest with
    | '\\' :: 'u' :: rest => do
      let (low, rest) ← hex4? rest
      if isLowSurrogate low then
        some (Char.ofNat (0x10000 + (unit - 0xD800) * 0x400 + (low - 0xDC00)), rest)
      else none
    | _ => none
  else some (Char.ofNat unit, rest)

/-- The character of an escape, after its backslash. -/
def escape? : List Char → Option (Char × Rest)
  | '"' :: rest => some ('"', rest)
  | '\\' :: rest => some ('\\', rest)
  | '/' :: rest => some ('/', rest)
  | 'b' :: rest => some ('\x08', rest)
  | 'f' :: rest => some ('\x0c', rest)
  | 'n' :: rest => some ('\n', rest)
  | 'r' :: rest => some ('\r', rest)
  | 't' :: rest => some ('\t', rest)
  | 'u' :: rest => unitEscape? rest
  | _ => none

/-- The characters of a string up to its closing quote, in reverse; the bound is the number of
characters that may still be read. -/
def stringChars? : Nat → List Char → List Char → Option (List Char × Rest)
  | 0, _, _ => none
  | bound + 1, read, text =>
    match text with
    | [] => none
    | '"' :: rest => some (read, rest)
    | '\\' :: rest =>
      match escape? rest with
      | some (character, rest) => stringChars? bound (character :: read) rest
      | none => none
    | character :: rest =>
      if character.toNat < 0x20 then none else stringChars? bound (character :: read) rest

/-- A string after its opening quote. -/
def string? (text : List Char) : Option (String × Rest) :=
  (stringChars? (text.length + 1) [] text).map fun (read, rest) => (String.ofList read.reverse, rest)

/-- The value of a number literal: sign, whole digits, and, when it has a fraction or an exponent,
the fraction digits and the exponent. -/
def numberValue? (negative : Bool) (whole fraction : List Char) (power : Option Int) :
    Option Json.Number :=
  let asDouble (power : Int) : Option Json.Number :=
    Json.Number.ofDouble? <| Binary64.ofDecimal negative (Number.digitsValue (whole ++ fraction))
      (power - fraction.length)
  match power with
  | some power => asDouble power
  | none =>
    let magnitude : Int := Number.digitsValue whole
    if negative then
      if magnitude = 0 ∨ -magnitude < Number.least64 then asDouble 0 else Json.Number.ofInt? (-magnitude)
    else if magnitude ≤ Number.greatestUnsigned64 then Json.Number.ofInt? magnitude
    else asDouble 0

/-- An exponent with at least one digit, when the text goes on with one. -/
def exponentPart? (text : List Char) : Option (Option Int × Rest) :=
  match text with
  | mark :: rest =>
    if mark == 'e' || mark == 'E' then
      let (negative, rest) := Number.takeSign rest
      let digits := rest.takeWhile Char.isDigit
      if digits.isEmpty then none
      else
        let magnitude : Int := Number.digitsValue digits
        some (some (if negative then -magnitude else magnitude), rest.dropWhile Char.isDigit)
    else some (none, text)
  | [] => some (none, text)

/-- A fraction with at least one digit, when the text goes on with a point. -/
def fractionPart? (text : List Char) : Option (Option (List Char) × Rest) :=
  match text with
  | '.' :: rest =>
    let digits := rest.takeWhile Char.isDigit
    if digits.isEmpty then none else some (some digits, rest.dropWhile Char.isDigit)
  | _ => some (none, text)

/-- A number literal: its sign, its digits, and its exponent, which is present when it has a
fraction. -/
structure Literal where
  negative : Bool
  whole : List Char
  fraction : List Char
  power : Option Int

/-- A number literal; a leading zero stands alone. -/
def literal? (text : List Char) : Option (Literal × Rest) := do
  let (negative, text) := match text with
    | '-' :: rest => (true, rest)
    | _ => (false, text)
  let whole := text.takeWhile Char.isDigit
  let afterWhole := text.dropWhile Char.isDigit
  if whole.isEmpty || (whole.head? == some '0' && whole.length > 1) then none
  else
    let (fraction, afterFraction) ← fractionPart? afterWhole
    let (power, rest) ← exponentPart? afterFraction
    let power := if fraction.isSome && power.isNone then some 0 else power
    pure (⟨negative, whole, fraction.getD [], power⟩, rest)

/-- The number of a literal. -/
def number? (text : List Char) : Option (Json.Number × Rest) := do
  let (literal, rest) ← literal? text
  let read ← numberValue? literal.negative literal.whole literal.fraction literal.power
  pure (read, rest)

/-- Items separated by commas up to a closing character; the first item has already been announced
by the text. The bound is the number of items that may still be read. -/
def separated? {α : Type} (item : List Char → Option (α × Rest)) (closing : Char) :
    Nat → List Char → Option (List α × Rest)
  | 0, _ => none
  | bound + 1, text => do
    let (first, rest) ← item (skipSpace text)
    match skipSpace rest with
    | character :: rest =>
      if character = closing then some ([first], rest)
      else if character = ',' then do
        let (others, rest) ← separated? item closing bound rest
        pure (first :: others, rest)
      else none
    | [] => none

/-- A field: a quoted key, a colon and a value. -/
def field? (value : List Char → Option (Json × Rest)) (text : List Char) :
    Option ((String × Json) × Rest) := do
  match text with
  | '"' :: rest =>
    let (key, rest) ← string? rest
    match skipSpace rest with
    | ':' :: rest =>
      let (found, rest) ← value (skipSpace rest)
      pure ((key, found), rest)
    | _ => none
  | _ => none

/-- A value with at most `depth` nested lists and objects; the text starts with the value. -/
def value? : Nat → List Char → Option (Json × Rest)
  | depth, text =>
    match text with
    | 'n' :: _ => (word? ['n', 'u', 'l', 'l'] text).map fun rest => (.null, rest)
    | 't' :: _ => (word? ['t', 'r', 'u', 'e'] text).map fun rest => (.bool true, rest)
    | 'f' :: _ => (word? ['f', 'a', 'l', 's', 'e'] text).map fun rest => (.bool false, rest)
    | '"' :: rest => (string? rest).map fun (read, rest) => (.string read, rest)
    | '[' :: rest =>
      match depth with
      | 0 => none
      | depth + 1 =>
        match skipSpace rest with
        | ']' :: rest => some (.array [], rest)
        | rest =>
          (separated? (value? depth) ']' (rest.length + 1) rest).map fun (items, rest) =>
            (.array items, rest)
    | '\x7b' :: rest =>
      match depth with
      | 0 => none
      | depth + 1 =>
        match skipSpace rest with
        | '\x7d' :: rest => some (.object [], rest)
        | rest =>
          (separated? (field? (value? depth)) '\x7d' (rest.length + 1) rest).map fun (fields, rest) =>
            (.object fields, rest)
    | _ => (number? text).map fun (read, rest) => (.number read, rest)

end RemoteConfig.Json.Reader

namespace RemoteConfig.Json

/-- The deepest nesting of lists and objects that is read. -/
def nestingLimit : Nat := 127

/-- Reads a whole document by a reading of its value, in canonical form. -/
def parseBy? (reading : Reader.Reading) (text : String) : Option Json :=
  match reading nestingLimit (Reader.skipSpace text.toList) with
  | some (value, rest) => if (Reader.skipSpace rest).isEmpty then some value.canonical else none
  | none => none

/-- Reads a whole document in canonical form. -/
def parse? : String → Option Json :=
  parseBy? Reader.value?

end RemoteConfig.Json
