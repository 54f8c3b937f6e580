import RemoteConfig.Json.Basic
import RemoteConfig.Number.Shortest

/-!
Contract: the compact text of a document.

Owns:
- values without blanks between tokens, fields in the order in which the object holds them;
- the escapes of strings: quote, backslash and the characters below the blank.

Does not own: sorting the fields of an object.
-/

namespace RemoteConfig.Json

namespace Number

/-- The text of a number: an integer has neither point nor exponent, a double always has one. -/
def text : Number → String
  | .integer value _ => toString value
  | .double value _ => value.documentText

end Number

namespace Writer

/-- A digit of base sixteen. -/
def hexDigit (value : Nat) : Char :=
  if value < 10 then Char.ofNat (48 + value) else Char.ofNat (87 + value)

/-- A character inside a quoted string. -/
def escaped (character : Char) : List Char :=
  if character = '"' then ['\\', '"']
  else if character = '\\' then ['\\', '\\']
  else if character = '\x08' then ['\\', 'b']
  else if character = '\x0c' then ['\\', 'f']
  else if character = '\n' then ['\\', 'n']
  else if character = '\r' then ['\\', 'r']
  else if character = '\t' then ['\\', 't']
  else if character.toNat < 0x20 then
    ['\\', 'u', '0', '0', hexDigit (character.toNat / 16), hexDigit (character.toNat % 16)]
  else [character]

def quoted (text : String) : List Char :=
  '"' :: text.toList.flatMap escaped ++ ['"']

mutual

/-- The text of a value. -/
def chars : Json → List Char
  | .null => ['n', 'u', 'l', 'l']
  | .bool true => ['t', 'r', 'u', 'e']
  | .bool false => ['f', 'a', 'l', 's', 'e']
  | .number value => value.text.toList
  | .string value => quoted value
  | .array items => '[' :: itemChars items ++ [']']
  | .object fields => '\x7b' :: fieldChars fields ++ ['\x7d']

/-- The texts of items, separated by commas. -/
def itemChars : List Json → List Char
  | [] => []
  | [item] => chars item
  | item :: second :: rest => chars item ++ ',' :: itemChars (second :: rest)

/-- The texts of fields, separated by commas. -/
def fieldChars : List (String × Json) → List Char
  | [] => []
  | [(key, value)] => quoted key ++ ':' :: chars value
  | (key, value) :: second :: rest =>
    quoted key ++ ':' :: chars value ++ ',' :: fieldChars (second :: rest)

end

end Writer

def compact (value : Json) : String :=
  String.ofList (Writer.chars value)

end RemoteConfig.Json
