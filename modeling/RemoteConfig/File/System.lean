import RemoteConfig.File.Path
import RemoteConfig.Text.Utf8

/-!
Contract: files, directories and symbolic links, as they are seen from a working directory.

Owns:
- the nodes of a file system and adding them;
- following a path from the root or from the working directory: names, upward steps and links;
- reading files, and the wording of why one cannot be read.

Does not own: who may read which file, and changes while a path is followed.
-/

namespace RemoteConfig

/-- A file with its bytes, a directory, or a link to a path. -/
inductive FileNode where
  | file (content : Bytes)
  | directory
  | link (target : String)
deriving DecidableEq

/-- The names that lead from the root to the working directory, and the nodes by their names from the
root. -/
structure FileSystem where
  home : List String
  nodes : List (List String × FileNode)

/-- Why a path does not lead to a file that can be read. -/
inductive FileFault where
  | notFound
  | notDirectory
  | isDirectory
  | tooManyLinks
  | nameTooLong
  | hasNul
  | notText
deriving DecidableEq, Repr

namespace FileFault

/-- The wording of a fault. -/
def message : FileFault → String
  | notFound => "No such file or directory (os error 2)"
  | notDirectory => "Not a directory (os error 20)"
  | isDirectory => "Is a directory (os error 21)"
  | nameTooLong => "File name too long (os error 36)"
  | tooManyLinks => "Too many levels of symbolic links (os error 40)"
  | hasNul => "file name contained an unexpected NUL byte"
  | notText => "stream did not contain valid UTF-8"

end FileFault

namespace FileSystem

/-- A working directory, and nothing in it. -/
def empty : FileSystem := ⟨["work"], [(["work"], .directory)]⟩

/-- The names from the root that a path stands for: those of the working directory are in front of the
names of a path that is not absolute. -/
def namesOf (system : FileSystem) (path : String) : List String :=
  if File.isAbsolute path then File.names path else system.home ++ File.names path

/-- The node at given names; no names at all are the root. -/
def node? (system : FileSystem) (place : List String) : Option FileNode :=
  if place.isEmpty then some .directory else system.nodes.lookup place

/-- One step of a path where no link is on its way; above the root there is nothing. -/
def stepTo (place : List String) (name : String) : List String :=
  if !File.isProperName name then place
  else if name = ".." then place.dropLast
  else place ++ [name]

/-- Adds a node and the directories above it; a directory does not replace what is there. -/
def add (system : FileSystem) (path : String) (node : FileNode) : FileSystem :=
  let place := (system.namesOf path).foldl stepTo []
  let above := (List.range place.length).map fun count => place.take count
  let missing := above.filter fun directory => (system.node? directory).isNone
  let kept := if node = .directory && (system.node? place).isSome then []
    else [(place, node)]
  { system with
    nodes := kept ++ missing.map (fun directory => (directory, FileNode.directory)) ++ system.nodes }

/-- The number of links that are followed on one path. -/
def linkLimit : Nat := 40

/-- The number of bytes of the longest name. -/
def nameLimit : Nat := 255

/-- The number of bytes of the longest path. -/
def pathLimit : Nat := 4095

/-- Follows names from a place that has been reached; the root is above itself. A link is followed by
the given function, with the names of its target in front of the remaining ones: from the root, where
the target is absolute, and else from the place that the link stands in. -/
def walk (system : FileSystem)
    (follow : List String → List String → Except FileFault (List String)) :
    List String → List String → Except FileFault (List String)
  | [], place => .ok place
  | name :: rest, place =>
    match system.node? place with
    | some .directory =>
      if !File.isProperName name then walk system follow rest place
      else if name = ".." then walk system follow rest place.dropLast
      else if (Utf8.encode name).length > nameLimit then .error .nameTooLong
      else
        match system.node? (place ++ [name]) with
        | some (.link target) =>
          follow (File.names target ++ rest) (if File.isAbsolute target then [] else place)
        | some _ => walk system follow rest (place ++ [name])
        | none => .error .notFound
    | _ => .error .notDirectory

/-- Follows names from a place, with a limit on the number of links. -/
def follow (system : FileSystem) : Nat → List String → List String → Except FileFault (List String)
  | 0 => fun _ _ => .error .tooManyLinks
  | links + 1 => walk system (follow system links)

/-- The place that a path leads to, without links and upward steps. -/
def resolve (system : FileSystem) (path : String) : Except FileFault (List String) :=
  if path.toList.contains '\x00' then .error .hasNul
  else if path.isEmpty then .error .notFound
  else if (Utf8.encode path).length > pathLimit then .error .nameTooLong
  else follow system (linkLimit + 1) (system.namesOf path) []

def isFile (system : FileSystem) (path : String) : Bool :=
  match system.resolve path with
  | .ok place =>
    match system.node? place with
    | some (.file _) => true
    | _ => false
  | .error _ => false

def isDirectory (system : FileSystem) (path : String) : Bool :=
  match system.resolve path with
  | .ok place => system.node? place == some .directory
  | .error _ => false

/-- Does a directory lie at or below a location, with all links followed? -/
def isWithin (system : FileSystem) (location directory : String) : Bool :=
  match system.resolve location, system.resolve directory with
  | .ok outer, .ok inner => outer.isPrefixOf inner
  | _, _ => false

def readBytes (system : FileSystem) (path : String) : Except FileFault Bytes :=
  match system.resolve path with
  | .ok place =>
    match system.node? place with
    | some (.file content) => .ok content
    | _ => .error .isDirectory
  | .error fault => .error fault

/-- The text of a file, which has to be valid. -/
def readText (system : FileSystem) (path : String) : Except FileFault String :=
  match system.readBytes path with
  | .ok bytes =>
    match Utf8.decode? bytes with
    | some text => .ok text
    | none => .error .notText
  | .error fault => .error fault

end FileSystem

end RemoteConfig
