import RemoteConfig.Json.Basic

/-!
Contract: nested documents as flat maps from paths to leaves.

Owns:
- the text of a path: field names joined by dots, list positions in brackets;
- the leaves of a document, in order: everything but objects and non-empty lists;
- the flat map of a document.

Does not own: reading paths back.
-/

namespace RemoteConfig.Flatten

/-- The path of a field below a path; at the root it is the name alone. -/
def childPath (path name : String) : String :=
  if path.isEmpty then name else path ++ "." ++ name

def itemPath (path : String) (position : Nat) : String :=
  path ++ "[" ++ toString position ++ "]"

mutual

/-- The leaves of a document below a path, with their paths, in document order. -/
def leaves (path : String) : Json → List (String × Json)
  | .object fields => fieldLeaves path fields
  | .array [] => [(path, .array [])]
  | .array (item :: rest) => itemLeaves path 0 (item :: rest)
  | .null => [(path, .null)]
  | .bool value => [(path, .bool value)]
  | .number value => [(path, .number value)]
  | .string value => [(path, .string value)]

/-- The leaves below the fields of an object. -/
def fieldLeaves (path : String) : List (String × Json) → List (String × Json)
  | [] => []
  | (name, value) :: rest => leaves (childPath path name) value ++ fieldLeaves path rest

/-- The leaves below the items of a list, counted from a position. -/
def itemLeaves (path : String) (position : Nat) : List Json → List (String × Json)
  | [] => []
  | item :: rest => leaves (itemPath path position) item ++ itemLeaves path (position + 1) rest

end

end RemoteConfig.Flatten

namespace RemoteConfig

/-- The flat map of a document; a later leaf of the same path replaces an earlier one. -/
def flatten (document : Json) : Json.Fields :=
  Fields.ofList (Flatten.leaves "" document)

end RemoteConfig
