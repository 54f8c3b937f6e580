import RemoteConfig.Json.Reader

/-!
Contract: reading the text of a document of which only some fields count.

Owns:
- records, of which the named fields count: each may be stated once, in any order, or all of them
  are given as a list in the order of their declaration;
- passing over the value of any other field: it must be well formed, but it may be nested to any
  depth, its numbers may lie beyond the doubles, and its strings may hold lone surrogates;
- lists of such records.

Does not own: what the fields of a record mean.
-/

namespace RemoteConfig.Json.Reader

/-- Passes over a string after its opening quote. -/
def skipString? : List Char → Option Rest
  | [] => none
  | '"' :: rest => some rest
  | '\\' :: 'u' :: first :: second :: third :: fourth :: rest =>
    if [first, second, third, fourth].all fun digit => (hexValue? digit).isSome then
      skipString? rest
    else none
  | '\\' :: mark :: rest =>
    if ['"', '\\', '/', 'b', 'f', 'n', 'r', 't'].contains mark then skipString? rest else none
  | character :: rest => if character.toNat < 0x20 then none else skipString? rest

/-- Passes over a field. -/
def skipField? (skip : List Char → Option (Unit × Rest)) (text : List Char) :
    Option (Unit × Rest) := do
  match text with
  | '"' :: rest =>
    match skipSpace (← skipString? rest) with
    | ':' :: rest => skip (skipSpace rest)
    | _ => none
  | _ => none

/-- Passes over a value; the bound is the number of lists and objects that may still be nested. -/
def skip? : Nat → List Char → Option (Unit × Rest)
  | bound, text =>
    match text with
    | 'n' :: _ => (word? ['n', 'u', 'l', 'l'] text).map fun rest => ((), rest)
    | 't' :: _ => (word? ['t', 'r', 'u', 'e'] text).map fun rest => ((), rest)
    | 'f' :: _ => (word? ['f', 'a', 'l', 's', 'e'] text).map fun rest => ((), rest)
    | '"' :: rest => (skipString? rest).map fun rest => ((), rest)
    | '[' :: rest =>
      match bound with
      | 0 => none
      | bound + 1 =>
        match skipSpace rest with
        | ']' :: rest => some ((), rest)
        | rest =>
          (separated? (skip? bound) ']' (rest.length + 1) rest).map fun (_, rest) => ((), rest)
    | '\x7b' :: rest =>
      match bound with
      | 0 => none
      | bound + 1 =>
        match skipSpace rest with
        | '\x7d' :: rest => some ((), rest)
        | rest =>
          (separated? (skipField? (skip? bound)) '\x7d' (rest.length + 1) rest).map
            fun (_, rest) => ((), rest)
    | _ => (literal? text).map fun (_, rest) => ((), rest)

/-- Passes over a value that is nested to any depth: a text nests no deeper than it is long. -/
def skipValue? (text : List Char) : Option Rest :=
  (skip? text.length text).map Prod.snd

/-- A field of a record, or nothing for a field that does not count. -/
def recordField? (fields : List (String × Reading)) (depth : Nat) (text : List Char) :
    Option (Option (String × Json) × Rest) := do
  match text with
  | '"' :: rest =>
    let (key, rest) ← string? rest
    match skipSpace rest with
    | ':' :: rest =>
      match Fields.get? key fields with
      | some reading =>
        let (found, rest) ← reading depth (skipSpace rest)
        pure (some (key, found), rest)
      | none => (skipValue? (skipSpace rest)).map fun rest => (none, rest)
    | _ => none
  | _ => none

/-- Items up to the closing bracket, of which each has a reading of its own. -/
def ordered? : List (List Char → Option (Json × Rest)) → List Char → Option (List Json × Rest)
  | [], _ => none
  | reading :: others, text => do
    let (first, rest) ← reading (skipSpace text)
    match skipSpace rest with
    | ']' :: rest => pure ([first], rest)
    | ',' :: rest =>
      let (items, rest) ← ordered? others rest
      pure (first :: items, rest)
    | _ => none

/-- A record of which the named fields count; none of them may be repeated. -/
def record (fields : List (String × Reading)) : Reading
  | 0, text => value? 0 text
  | depth + 1, text =>
    match text with
    | '\x7b' :: rest =>
      match skipSpace rest with
      | '\x7d' :: rest => some (.object [], rest)
      | rest => do
        let (found, rest) ←
          separated? (recordField? fields depth) '\x7d' (rest.length + 1) rest
        let stated := found.filterMap id
        if (stated.map Prod.fst).Nodup then pure (.object stated, rest) else none
    | '[' :: rest =>
      match skipSpace rest with
      | ']' :: rest => some (.array [], rest)
      | rest =>
        (ordered? (fields.map fun field => field.2 depth) rest).map fun (items, rest) =>
          (.array items, rest)
    | _ => value? (depth + 1) text

/-- A list of values of one reading; any other value is read as it is. -/
def listOf (item : Reading) : Reading
  | 0, text => value? 0 text
  | depth + 1, text =>
    match text with
    | '[' :: rest =>
      match skipSpace rest with
      | ']' :: rest => some (.array [], rest)
      | rest =>
        (separated? (item depth) ']' (rest.length + 1) rest).map fun (items, rest) =>
          (.array items, rest)
    | _ => value? (depth + 1) text

end RemoteConfig.Json.Reader
