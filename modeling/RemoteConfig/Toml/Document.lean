import RemoteConfig.Toml.Scalar

/-!
Contract: TOML text as a tree of settings.

Owns:
- keys, values with lists and tables on one line, and statements;
- tables that headers, dotted keys and lists of tables make: what was stated once is not stated again,
  and dotted keys only extend tables that dotted keys made;
- the limit of nested values.

Does not own: how names of settings are compared.
-/

namespace RemoteConfig.Toml

/-- What made a table: its own header, a header below it, or a dotted key. -/
inductive TableShape where
  | stated
  | implied
  | dotted
deriving DecidableEq

/-- What a name stands for while a document is read: a finished value, a table, or a list of tables of
which the last one may grow. -/
inductive Item where
  | value (found : Tree)
  | table (shape : TableShape) (entries : List (String × Item))
  | tables (parts : List (List (String × Item)))
deriving Inhabited

/-- The names of a table while a document is read. -/
abbrev Entries := List (String × Item)

mutual

def Item.toTree : Item → Tree
  | .value found => found
  | .table _ entries => .table (entriesToTree entries)
  | .tables parts => .list (partsToTree parts)

def entriesToTree : List (String × Item) → List (String × Tree)
  | [] => []
  | (name, item) :: rest => (name, item.toTree) :: entriesToTree rest

def partsToTree : List (List (String × Item)) → List Tree
  | [] => []
  | part :: rest => .table (entriesToTree part) :: partsToTree rest

end

def changeLast? (change : Entries → Option Entries) : List Entries → Option (List Entries)
  | [] => none
  | [last] => (change last).map fun changed => [changed]
  | first :: rest => (changeLast? change rest).map fun changed => first :: changed

/-- Sets a value under a dotted key. -/
def setDotted? (name : String) (item : Item) : List String → Entries → Option Entries
  | [], entries =>
    match Fields.get? name entries with
    | some _ => none
    | none => some (Fields.insert name item entries)
  | key :: keys, entries =>
    match Fields.get? key entries with
    | none =>
      (setDotted? name item keys []).map fun inner =>
        Fields.insert key (.table .dotted inner) entries
    | some (.table shape inner) =>
      if shape = .stated || (shape = .implied && keys.isEmpty) then none
      else
        (setDotted? name item keys inner).map fun inner =>
          Fields.insert key (.table shape inner) entries
    | some (.tables parts) =>
      if keys.isEmpty then none
      else
        (changeLast? (setDotted? name item keys) parts).map fun parts =>
          Fields.insert key (.tables parts) entries
    | some (.value _) => none

/-- Changes the table that the names of a header lead to; tables on the way are made as needed. -/
def changeAt? (change : Entries → Option Entries) : List String → Entries → Option Entries
  | [], entries => change entries
  | key :: keys, entries =>
    match Fields.get? key entries with
    | none =>
      (changeAt? change keys []).map fun inner => Fields.insert key (.table .implied inner) entries
    | some (.table shape inner) =>
      (changeAt? change keys inner).map fun inner => Fields.insert key (.table shape inner) entries
    | some (.tables parts) =>
      (changeLast? (changeAt? change keys) parts).map fun parts =>
        Fields.insert key (.tables parts) entries
    | some (.value _) => none

/-- States a table; it may have been implied before. -/
def stateTable? (name : String) (entries : Entries) : Option Entries :=
  match Fields.get? name entries with
  | none => some (Fields.insert name (.table .stated []) entries)
  | some (.table .implied inner) => some (Fields.insert name (.table .stated inner) entries)
  | some _ => none

def addTable? (name : String) (entries : Entries) : Option Entries :=
  match Fields.get? name entries with
  | none => some (Fields.insert name (.tables [[]]) entries)
  | some (.tables parts) => some (Fields.insert name (.tables (parts ++ [[]])) entries)
  | some _ => none

/-! Keys and values. -/

/-- The characters of names without quotes. -/
def isBare (character : Char) : Bool :=
  character.isAlphanum || character == '_' || character == '-'

/-- One name of a key. -/
def name? (text : List Char) : Option (String × Rest) :=
  match text with
  | '"' :: rest => lineString? '"' rest
  | '\'' :: rest => lineString? '\'' rest
  | _ =>
    let name := text.takeWhile isBare
    if name.isEmpty then none else some (String.ofList name, text.dropWhile isBare)

/-- The names of a key, joined by dots; blanks around them are passed. The bound is the number of names
that may still be read. -/
def key? : Nat → List Char → Option (List String × Rest)
  | 0, _ => none
  | bound + 1, text => do
    let (name, rest) ← name? (skipBlanks text)
    match skipBlanks rest with
    | '.' :: rest => do
      let (names, rest) ← key? bound rest
      pure (name :: names, rest)
    | rest => pure ([name], rest)

/-- The deepest nesting of values, and the greatest number of names of a key. -/
def nestingLimit : Nat := 79

/-- Passes a comment, when the text goes on with one. -/
def skipComment (text : List Char) : List Char :=
  match text with
  | '#' :: rest => rest.dropWhile isText
  | _ => text

/-- Passes blanks, comments and line breaks; the bound is the number of lines that may be passed. -/
def skipGaps : Nat → List Char → List Char
  | 0, text => text
  | bound + 1, text =>
    match lineBreak? (skipComment (skipBlanks text)) with
    | some rest => skipGaps bound rest
    | none => skipBlanks text

/-- Passes all blanks, comments and line breaks. -/
def skipAllGaps (text : List Char) : List Char :=
  skipGaps (text.length + 1) text

/-- The items of a list up to its closing bracket; a comma may stand behind the last one. The bound is
the number of items that may still be read. -/
def listItems? (value : List Char → Option (Tree × Rest)) :
    Nat → List Char → Option (List Tree × Rest)
  | 0, _ => none
  | bound + 1, text =>
    match skipAllGaps text with
    | ']' :: rest => some ([], rest)
    | text => do
      let (first, rest) ← value text
      match skipAllGaps rest with
      | ',' :: rest => do
        let (others, rest) ← listItems? value bound rest
        pure (first :: others, rest)
      | ']' :: rest => pure ([first], rest)
      | _ => none

/-- A key, an equals sign and a value. -/
def keyValue? (value : List Char → Option (Tree × Rest)) (text : List Char) :
    Option (List String × Tree × Rest) := do
  let (names, rest) ← key? nestingLimit text
  let rest ← character? '=' rest
  let (found, rest) ← value (skipBlanks rest)
  pure (names, found, rest)

/-- Sets the value of a key, given by its names. -/
def setKey? (names : List String) (found : Tree) (entries : Entries) : Option Entries :=
  names.getLast?.bind fun name => setDotted? name (.value found) names.dropLast entries

/-- The entries of a table on one line up to its closing brace; the first one has been announced. The
bound is the number of entries that may still be read. -/
def inlineEntries? (value : List Char → Option (Tree × Rest)) :
    Nat → Entries → List Char → Option (Entries × Rest)
  | 0, _, _ => none
  | bound + 1, entries, text => do
    let (names, found, rest) ← keyValue? value text
    let entries ← setKey? names found entries
    match skipBlanks rest with
    | ',' :: rest => inlineEntries? value bound entries rest
    | '\x7d' :: rest => pure (entries, rest)
    | _ => none

/-- A value with at most so many nested lists and tables. -/
def value? : Nat → List Char → Option (Tree × Rest)
  | depth, text =>
    match text with
    | '"' :: rest => (string? '"' rest).map fun (found, rest) => (.string found, rest)
    | '\'' :: rest => (string? '\'' rest).map fun (found, rest) => (.string found, rest)
    | 't' :: 'r' :: 'u' :: 'e' :: rest => some (.bool true, rest)
    | 'f' :: 'a' :: 'l' :: 's' :: 'e' :: rest => some (.bool false, rest)
    | '[' :: rest =>
      match depth with
      | 0 => none
      | depth + 1 =>
        (listItems? (value? depth) (rest.length + 1) rest).map fun (items, rest) =>
          (.list items, rest)
    | '\x7b' :: rest =>
      match depth with
      | 0 => none
      | depth + 1 =>
        match skipBlanks rest with
        | '\x7d' :: rest => some (.table [], rest)
        | rest =>
          (inlineEntries? (value? depth) (rest.length + 1) [] rest).map fun (entries, rest) =>
            (.table (entriesToTree entries), rest)
    | _ => moment? text <|> number? text

/-! Statements. -/

/-- Passes what may stand behind a statement: blanks and a comment up to the end of the line. -/
def lineEnd? (text : List Char) : Option Rest :=
  match skipComment (skipBlanks text) with
  | [] => some []
  | rest => lineBreak? rest

/-- The names of a header up to its closing brackets. -/
def header? (closing : List Char) (text : List Char) : Option (List String × Rest) := do
  let (names, rest) ← key? nestingLimit text
  let rest ← Json.Reader.word? closing rest
  pure (names, rest)

/-- One statement below the table with the given names: it may lead to another table, and it may change
what has been read. -/
def statement? (table : List String) (entries : Entries) (text : List Char) :
    Option (List String × Entries × Rest) :=
  match text with
  | '[' :: '[' :: rest => do
    let (names, rest) ← header? [']', ']'] rest
    let name ← names.getLast?
    let entries ← changeAt? (addTable? name) names.dropLast entries
    pure (names, entries, rest)
  | '[' :: rest => do
    let (names, rest) ← header? [']'] rest
    let name ← names.getLast?
    let entries ← changeAt? (stateTable? name) names.dropLast entries
    pure (names, entries, rest)
  | _ => do
    let (names, found, rest) ← keyValue? (value? nestingLimit) text
    let entries ← changeAt? (setKey? names found) table entries
    pure (table, entries, rest)

/-- The statements of a document; the bound is the number of lines that may still be read. -/
def statements? : Nat → List String → Entries → List Char → Option Entries
  | 0, _, _, _ => none
  | bound + 1, table, entries, text =>
    let text := skipBlanks text
    if text.isEmpty then some entries
    else if text.head?.any fun c => ['#', '\n', '\r'].contains c then
      (lineEnd? text).bind (statements? bound table entries)
    else
      match statement? table entries text with
      | some (table, entries, rest) => (lineEnd? rest).bind (statements? bound table entries)
      | none => none

/-- Reads a document; a byte order mark in front of it is passed. -/
def parse? (text : String) : Option Tree :=
  let characters := text.toList
  let characters := if characters.head?.any (·.toNat == 0xFEFF) then characters.drop 1 else characters
  (statements? (characters.length + 2) [] [] characters).map fun entries =>
    .table (entriesToTree entries)

end RemoteConfig.Toml
