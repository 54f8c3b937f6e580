import RemoteConfig.Json.Basic
import RemoteConfig.Text.Lowercase

/-!
Contract: the tree of settings in which documents, variables and layers are merged.

Owns:
- the values of the tree; a number is an integer or any double;
- merging a value into a table under a name, which is held in lower case: a table is merged entry by
  entry into a table that is already there, and anything else replaces what was there;
- the document form of a tree, in which an infinite or undefined number is null.

Does not own: paths into the tree.
-/

namespace RemoteConfig

/-- A value of the tree. The entries of a table are sorted by name. -/
inductive Tree where
  | none
  | bool (value : Bool)
  | integer (value : Int)
  | double (value : Binary64)
  | string (value : String)
  | list (items : List Tree)
  | table (entries : List (String × Tree))
deriving Inhabited

namespace Tree

mutual

/-- A document as a value of the tree. -/
def ofJson : Json → Tree
  | .null => .none
  | .bool value => .bool value
  | .number (.integer value _) => .integer value
  | .number (.double value _) => .double value
  | .string value => .string value
  | .array items => .list (ofItems items)
  | .object fields => .table (ofFields fields)

/-- The values of the items of a document. -/
def ofItems : List Json → List Tree
  | [] => []
  | item :: rest => ofJson item :: ofItems rest

/-- The values of the fields of a document. -/
def ofFields : List (String × Json) → List (String × Tree)
  | [] => []
  | (name, value) :: rest => (name, ofJson value) :: ofFields rest

end

mutual

/-- A value of the tree as a document. -/
def toJson : Tree → Json
  | .none => .null
  | .bool value => .bool value
  | .integer value => Json.ofInt value
  | .double value => Json.ofDouble value
  | .string value => .string value
  | .list items => .array (itemsToJson items)
  | .table entries => .object (entriesToJson entries)

/-- The documents of items. -/
def itemsToJson : List Tree → List Json
  | [] => []
  | item :: rest => toJson item :: itemsToJson rest

/-- The documents of entries. -/
def entriesToJson : List (String × Tree) → List (String × Json)
  | [] => []
  | (name, value) :: rest => (name, toJson value) :: entriesToJson rest

end

/-- The entries of a table; any other value has none. -/
def entries : Tree → List (String × Tree)
  | .table found => found
  | _ => []

/-- The items of a list; any other value has none. -/
def items : Tree → List Tree
  | .list found => found
  | _ => []

mutual

/-- The entries of a table with a value merged under a name. -/
def mergeEntry (name : String) (entries : List (String × Tree)) :
    Tree → List (String × Tree)
  | .table incoming =>
    let name := Text.lowercase name
    match Fields.get? name entries, incoming with
    | some present, [] => Fields.insert name present entries
    | some present, _ => Fields.insert name (.table (mergeEntries present.entries incoming)) entries
    | Option.none, _ => Fields.insert name (.table (mergeEntries [] incoming)) entries
  | value => Fields.insert (Text.lowercase name) value entries

/-- The entries of a table with other entries merged one by one. -/
def mergeEntries (entries : List (String × Tree)) :
    List (String × Tree) → List (String × Tree)
  | [] => entries
  | (name, value) :: rest => mergeEntries (mergeEntry name entries value) rest

end

end Tree

end RemoteConfig
