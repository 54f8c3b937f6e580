import RemoteConfig.File.System
import RemoteConfig.Text.Lowercase
import RemoteConfig.Tree.Document

/-!
Contract: the sources that settings are loaded from: a file and environment variables.

Owns:
- finding the file of a path, whose extension may be left out;
- the settings of environment variables: the start of their names, the separator of nested names, and
  what the text of a value means;
- loading both, variables over the file.

Does not own: the shape of the settings.
-/

namespace RemoteConfig

/-- Environment variables: names and values. -/
abbrev Variables := List (String × String)

namespace Variables

/-- The separator of nested names. -/
def separator : List Char := ['_', '_']

/-- A name with every separator read as a dot, from left to right. -/
def dotted : List Char → List Char
  | '_' :: '_' :: rest => '.' :: dotted rest
  | character :: rest => character :: dotted rest
  | [] => []

/-- What the text of a value means: a boolean, an integer, a decimal, for some keys a list, and
otherwise the text itself. -/
def meaning (listKeys : List String) (key text : String) : Tree :=
  let characters := text.toList
  match Text.lowercase text with
  | "true" => .bool true
  | "false" => .bool false
  | _ =>
    match Number.signed64? characters, Number.decimal? characters with
    | some value, _ => .integer value
    | none, some value => .double value
    | none, none =>
      if listKeys.contains key then .list ((Text.splitAt ',' text).map .string) else .string text

/-- The setting of a variable whose name begins in a given way, without regard to letter case. -/
def setting? (start : String) (listKeys : List String) (name text : String) :
    Option (String × Tree) :=
  let marker := (Text.lowercase (start ++ String.ofList separator)).toList
  let characters := (Text.lowercase name).toList
  if marker.isPrefixOf characters then
    let key := String.ofList (dotted (characters.drop marker.length))
    some (key, meaning listKeys key text)
  else none

/-- The tree with the settings of variables set in it. -/
def apply (start : String) (listKeys : List String) (exported : Variables) (tree : Tree) : Tree :=
  (exported.filterMap fun (name, text) => setting? start listKeys name text).foldl
    (fun reached entry => reached.setWritten entry.1 entry.2) tree

end Variables

namespace Tree

/-- The file of a path and its format: the path itself when there is such a file, and otherwise the
first one with an extension put behind it. -/
def findFile? (files : FileSystem) (path : String) : Option (String × DocumentFormat) :=
  if files.isFile path then
    ((File.extension? path).bind DocumentFormat.ofExtension?).map fun format => (path, format)
  else
    DocumentFormat.triedExtensions.findSome? fun extension =>
      let extended := File.addExtension path extension
      if files.isFile extended then
        (DocumentFormat.ofExtension? extension).map fun format => (extended, format)
      else Option.none

def loadFile? (files : FileSystem) (path : String) : Option Tree :=
  (findFile? files path).bind fun (found, format) =>
    match files.readText found with
    | .ok text => (ofDocument? format text).map empty.setAll
    | .error _ => Option.none

/-- The settings of an optional file, with the settings of variables over them. -/
def load? (files : FileSystem) (path : Option String) (start : String) (listKeys : List String)
    (exported : Variables) : Option Tree :=
  let base := match path with
    | some path => loadFile? files path
    | Option.none => some empty
  base.map (Variables.apply start listKeys exported)

end Tree

end RemoteConfig
