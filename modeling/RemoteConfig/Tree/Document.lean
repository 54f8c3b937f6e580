import RemoteConfig.Json.Reader
import RemoteConfig.Toml.Document
import RemoteConfig.Tree.Path
import RemoteConfig.Yaml.Node

/-!
Contract: documents as sources of settings.

Owns:
- the three formats of documents, known by their extensions;
- the tree of a document, whose root is a table;
- setting every top-level entry of a document in a tree.

Does not own: where documents come from.
-/

namespace RemoteConfig

/-- The formats of documents. -/
inductive DocumentFormat where
  | yaml
  | toml
  | json
deriving DecidableEq, Repr

namespace DocumentFormat

def extensions : List String := ["yml", "yaml", "toml", "json"]

/-- The extensions in the order in which they are tried behind a path without one. -/
def triedExtensions : List String := ["yaml", "yml", "toml", "json"]

def ofExtension? : String → Option DocumentFormat
  | "yml" => some .yaml
  | "yaml" => some .yaml
  | "toml" => some .toml
  | "json" => some .json
  | _ => none

end DocumentFormat

namespace Tree

/-- The name that a scalar stands for as the key of a mapping. -/
def keyName? : Yaml.Node → Option String
  | .string text => some text
  | .integer value => some (toString value)
  | .bool value => some (if value then "true" else "false")
  | .real text => some text
  | _ => Option.none

mutual

/-- A node as a value of the tree. An infinite or undefined number is a fault. -/
def ofNode? : Yaml.Node → Option Tree
  | .null => some .none
  | .bad => some .none
  | .bool value => some (.bool value)
  | .integer value => some (.integer value)
  | .real text => (Number.decimal? text.toList).map .double
  | .string text => some (.string text)
  | .list items => (ofNodes? items).map .list
  | .mapping entries => (ofNodeEntries? entries).map fun found => .table (Fields.ofList found)

/-- The values of nodes. -/
def ofNodes? : List Yaml.Node → Option (List Tree)
  | [] => some []
  | node :: rest =>
    match ofNode? node, ofNodes? rest with
    | some value, some values => some (value :: values)
    | _, _ => Option.none

/-- The entries of a mapping. -/
def ofNodeEntries? : List (Yaml.Node × Yaml.Node) → Option (List (String × Tree))
  | [] => some []
  | (key, node) :: rest =>
    match keyName? key, ofNode? node, ofNodeEntries? rest with
    | some name, some value, some entries => some ((name, value) :: entries)
    | _, _, _ => Option.none

end

mutual

/-- The tree in which integers beyond the signed ones of 64 bits are doubles. -/
def signedOnly : Tree → Tree
  | .integer value => if value ≤ Number.greatest64 then .integer value else .double (Binary64.ofInt value)
  | .list items => .list (signedItems items)
  | .table entries => .table (signedEntries entries)
  | .none => .none
  | .bool value => .bool value
  | .double value => .double value
  | .string value => .string value

def signedItems : List Tree → List Tree
  | [] => []
  | item :: rest => signedOnly item :: signedItems rest

/-- The entries of a table with signed integers only. -/
def signedEntries : List (String × Tree) → List (String × Tree)
  | [] => []
  | (name, value) :: rest => (name, signedOnly value) :: signedEntries rest

end

/-- The only document of a text, which is empty when there is none. -/
def ofYaml? (text : String) : Option Tree :=
  match Yaml.Node.parse? text with
  | some [] => some empty
  | some [document] => ofNode? document
  | _ => Option.none

/-- The tree of a document in a format; its root has to be a table. -/
def ofDocument? (format : DocumentFormat) (text : String) : Option Tree :=
  let read := match format with
    | .yaml => ofYaml? text
    | .toml => Toml.parse? text
    | .json => (Json.parse? text).map fun value => (ofJson value).signedOnly
  read.filter fun
    | .table _ => true
    | _ => false

/-- The tree with every top-level entry of another one set in it. -/
def setAll (tree source : Tree) : Tree :=
  source.entries.foldl (fun reached entry => reached.setWritten entry.1 entry.2) tree

end Tree

end RemoteConfig
