import RemoteConfig.Unicode.Category

/-!
Contract: strings in quotes for people, and the shapes of diagnostic texts built from them.

Owns:
- the quoted form of a string, in which quotes, backslashes, control characters and characters
  without a glyph are escaped;
- the diagnostic forms of optional values, lists and records.

Does not own: the quoting of strings in documents.
-/

namespace RemoteConfig.Diagnostic

/-- The number of a character in base sixteen between braces. -/
def codeEscape (character : Char) : List Char :=
  ['\\', 'u', '\x7b'] ++ Nat.toDigits 16 character.toNat ++ ['\x7d']

/-- A character inside a quoted string. -/
def escaped (character : Char) : List Char :=
  if character = '"' then ['\\', '"']
  else if character = '\\' then ['\\', '\\']
  else if character = '\n' then ['\\', 'n']
  else if character = '\r' then ['\\', 'r']
  else if character = '\t' then ['\\', 't']
  else if character = '\x00' then ['\\', '0']
  else if character.toNat < 0x7F && 0x20 ≤ character.toNat then [character]
  else if Unicode.isExtender character || !Unicode.isPrintable character then codeEscape character
  else [character]

def quoted (text : String) : String :=
  String.ofList ('"' :: text.toList.flatMap escaped ++ ['"'])

/-- An optional value, given the form of a present one. -/
def option {α : Type} (form : α → String) : Option α → String
  | some value => "Some(" ++ form value ++ ")"
  | none => "None"

def commaJoined : List String → String
  | [] => ""
  | [single] => single
  | first :: second :: rest => first ++ ", " ++ commaJoined (second :: rest)

def list {α : Type} (form : α → String) (values : List α) : String :=
  "[" ++ commaJoined (values.map form) ++ "]"

/-- A map from names to values. -/
def map {α : Type} (form : α → String) (entries : List (String × α)) : String :=
  "\x7b" ++ commaJoined (entries.map fun entry => quoted entry.1 ++ ": " ++ form entry.2) ++ "\x7d"

def wrapped (name text : String) : String :=
  name ++ "(" ++ quoted text ++ ")"

/-- A record whose fields are not shown. -/
def hidden (name : String) : String :=
  name ++ " \x7b .. \x7d"

def record (name : String) (fields : List (String × String)) : String :=
  name ++ " \x7b " ++ commaJoined (fields.map fun field => field.1 ++ ": " ++ field.2) ++ " \x7d"

end RemoteConfig.Diagnostic
