import RemoteConfig.Text.Split

/-!
Contract: paths of files as text.

Owns:
- the names of a path, between slashes;
- joining a path to a directory, and putting an extension behind the last name;
- the test whether a path stays below the directory that it is joined to.

Does not own: what the names lead to.
-/

namespace RemoteConfig.File

/-- The names of a path, between slashes; they may be empty. -/
def names (path : String) : List String :=
  Text.splitAt '/' path

/-- Does a path start at the root of all files? -/
def isAbsolute (path : String) : Bool :=
  path.toList.head? == some '/'

/-- A path below a directory. An absolute path replaces the directory. -/
def join (directory path : String) : String :=
  if isAbsolute path || directory.isEmpty then path
  else if directory.toList.getLast? == some '/' then directory ++ path
  else directory ++ "/" ++ path

/-- Does a path consist of names only, so that it leads below any directory that it is joined to? A
dot that is not the first name stands for no step at all. -/
def isInner (path : String) : Bool :=
  !isAbsolute path && !(names path).contains ".." && (names path).head? != some "."

/-- The names that count for a file name: neither empty nor a dot. -/
def isProperName (name : String) : Bool :=
  !name.isEmpty && name != "."

/-- The last name of a path, unless it leads upwards. -/
def fileName? (path : String) : Option String :=
  ((names path).filter isProperName).getLast?.filter fun name => name != ".."

/-- What stands behind the last dot of a name, unless that dot is its first character. -/
def extensionOf? (name : String) : Option String :=
  let characters := name.toList.reverse
  let extension := characters.takeWhile (· != '.')
  match characters.drop extension.length with
  | [] => none
  | [_] => none
  | _ => some (String.ofList extension.reverse)

/-- The extension of the last name of a path. -/
def extension? (path : String) : Option String :=
  (fileName? path).bind extensionOf?

/-- The path without slashes and dots that stand behind its last name. -/
def dropEmptyEnd (path : String) : String :=
  Text.join "/" ((names path).reverse.dropWhile (fun name => !isProperName name)).reverse

/-- The path with an extension put behind its last name; a path without one stays. -/
def addExtension (path extension : String) : String :=
  match fileName? path with
  | some _ => dropEmptyEnd path ++ "." ++ extension
  | none => path

end RemoteConfig.File
