import RemoteConfig.Text.Utf8

/-!
Contract: percent-encoding of text inside locators.

Owns:
- the sets of characters that are encoded in each part of a locator;
- encoding: characters of the set and all beyond ASCII become the escapes of their UTF-8 bytes;
- decoding of escapes; a percent sign without two hexadecimal digits stands for itself.

Does not own: how a locator is divided into its parts.
-/

namespace RemoteConfig.Percent

def isControl (character : Char) : Bool :=
  character.toNat < 0x20 || character.toNat == 0x7F

def inFragment (character : Char) : Bool :=
  isControl character || [' ', '"', '<', '>', '\x60'].contains character

def inPath (character : Char) : Bool :=
  inFragment character || ['#', '?', '\x7b', '\x7d'].contains character

/-- The characters encoded in a user name or password. -/
def inUserinfo (character : Char) : Bool :=
  inPath character || ['/', ':', ';', '=', '@', '[', '\\', ']', '^', '|'].contains character

/-- The characters encoded in one segment of a path; a special scheme treats the backslash as a
slash, so there it is encoded too. -/
def inSegment (special : Bool) (character : Char) : Bool :=
  inPath character || ['/', '%'].contains character || (special && character == '\\')

def inQuery (special : Bool) (character : Char) : Bool :=
  isControl character || [' ', '"', '#', '<', '>'].contains character
    || (special && character == '\'')

/-- The characters that stand for themselves in form data; a blank becomes a plus sign. -/
def plainInForm (character : Char) : Bool :=
  character.isAlphanum || ['*', '-', '.', '_'].contains character

/-- A digit of base sixteen in upper case. -/
def hexDigit (value : Nat) : Char :=
  if value < 10 then Char.ofNat (48 + value) else Char.ofNat (55 + value)

def escapeByte (byte : UInt8) : List Char :=
  ['%', hexDigit (byte.toNat / 16), hexDigit (byte.toNat % 16)]

/-- A character as it stands in a part whose set is given. -/
def encodeChar (inSet : Char → Bool) (character : Char) : List Char :=
  if character.toNat < 0x80 && !inSet character then [character]
  else (Utf8.encodeChar character).flatMap escapeByte

/-- Text as it stands in a part whose set is given. -/
def encode (inSet : Char → Bool) (text : List Char) : List Char :=
  text.flatMap (encodeChar inSet)

/-- The value of a digit of base sixteen. -/
def hexValue? (character : Char) : Option Nat :=
  if character.isDigit then some (character.toNat - 48)
  else if 'a' ≤ character ∧ character ≤ 'f' then some (character.toNat - 87)
  else if 'A' ≤ character ∧ character ≤ 'F' then some (character.toNat - 55)
  else none

/-- The byte of an escape. -/
def escaped? (first second : Char) : Option UInt8 := do
  let high ← hexValue? first
  let low ← hexValue? second
  pure (UInt8.ofNat (high * 16 + low))

/-- The bytes of text with its escapes resolved. -/
def decode : List Char → Bytes
  | '%' :: first :: second :: rest =>
    match escaped? first second with
    | some byte => byte :: decode rest
    | none => Utf8.encodeChar '%' ++ decode (first :: second :: rest)
  | character :: rest => Utf8.encodeChar character ++ decode rest
  | [] => []
termination_by text => text.length

/-- Form data of one name or value. -/
def encodeForm (text : String) : List Char :=
  text.toList.flatMap fun character =>
    if character = ' ' then ['+']
    else if plainInForm character then [character]
    else (Utf8.encodeChar character).flatMap escapeByte

/-- Pairs of names and values as form data. -/
def formText (pairs : List (String × String)) : String :=
  let written := pairs.map fun pair => encodeForm pair.1 ++ '=' :: encodeForm pair.2
  String.ofList (List.intercalate ['&'] written)

end RemoteConfig.Percent
