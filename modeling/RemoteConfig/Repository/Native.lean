import RemoteConfig.Environment.Flatten
import RemoteConfig.Environment.Label
import RemoteConfig.Repository.Basic
import RemoteConfig.Tree.Source

/-!
Contract: configuration files below search locations.

Owns:
- the files that may hold configuration, from the highest precedence down;
- the directory of a label, which lies inside of its search location;
- the sources that the files yield.

Does not own: reading the formats of files.
-/

namespace RemoteConfig

/-- Search locations, and the label of queries that name none. -/
structure NativeSettings where
  locations : List String
  defaultLabel : Option String
  order : Int
deriving DecidableEq, Repr

namespace NativeSettings

/-- The name of the application whose files all applications share. -/
def sharedName : String := "application"

/-- The profile of a query that names none. -/
def defaultProfile : String := "default"

/-- Profiles from the highest precedence down: the last one of a query comes first. -/
def profilesOf (profile : String) : List String :=
  match (Text.splitList profile).reverse with
  | [] => [defaultProfile]
  | profiles => profiles

/-- Applications from the highest precedence down: the last one of a query comes first, and the shared
one is the last. -/
def applicationsOf (application : String) : List String :=
  ((Text.splitList application).reverse.filter fun name => name != sharedName) ++ [sharedName]

/-- The names of files without extension: those of each profile, and then those without one. -/
def stems (query : RepositoryQuery) : List String :=
  let applications := applicationsOf query.application
  ((profilesOf query.profile).flatMap fun profile =>
    applications.map fun name => name ++ "-" ++ profile) ++ applications

/-- The label that files are searched for under: the one of the query, or else the default. -/
def effectiveLabel (settings : NativeSettings) (label : Option String) : Option String :=
  Text.nonBlank label <|> settings.defaultLabel

/-- The path of a label below a search location. -/
def labelPath (label : String) : Except ConfigError String :=
  let path := Label.ofWire label
  if File.isInner path then .ok path else .error (.settings (.labelOutside label))

/-- The directory of a label below a location, when there is one that does not leave the location. -/
def labelDirectory? (files : FileSystem) (location path : String) : Option String :=
  let directory := File.join location path
  if files.isDirectory directory && files.isWithin location directory then some directory else none

/-- The directories that are searched: for each location, first that of the label and then the location
itself. -/
def directories (settings : NativeSettings) (files : FileSystem) (label : Option String) :
    Except ConfigError (List String) :=
  match settings.effectiveLabel label with
  | none => .ok settings.locations
  | some label =>
    (labelPath label).map fun path =>
      settings.locations.flatMap fun location =>
        (labelDirectory? files location path).toList ++ [location]

/-- The files that may hold configuration, from the highest precedence down. -/
def candidateFiles (settings : NativeSettings) (files : FileSystem) (query : RepositoryQuery) :
    Except ConfigError (List String) :=
  (settings.directories files query.label).map fun directories =>
    (stems query).flatMap fun stem =>
      directories.flatMap fun directory =>
        DocumentFormat.extensions.map fun extension =>
          File.join directory (stem ++ "." ++ extension)

/-- The flat properties of a file. -/
def loadFile (files : FileSystem) (path : String) : Except ConfigError Json.Fields :=
  match Tree.loadFile? files path with
  | some tree => .ok (flatten tree.toJson)
  | none => .error (.load (.file path))

/-- The sources of those of the given files that exist, and what is reported about them. -/
def loadFiles (files : FileSystem) : List String → Except ConfigError (List PropertySource) × List LogLine
  | [] => (.ok [], [])
  | path :: rest =>
    match loadFile files path with
    | .error error => (.error error, [])
    | .ok properties =>
      let report := LogLine.debug "Loaded property file"
        [("path", path), ("properties", toString properties.length)]
      let (others, reports) := loadFiles files rest
      (others.map fun sources => ⟨"file:" ++ path, properties⟩ :: sources, report :: reports)

def environment (settings : NativeSettings) (files : FileSystem) (query : RepositoryQuery) :
    Except ConfigError Environment × List LogLine :=
  match settings.candidateFiles files query with
  | .error error => (.error error, [])
  | .ok candidates =>
    let (sources, reports) := loadFiles files (candidates.filter files.isFile)
    let empty := query.emptyAnswer (query.label <|> settings.defaultLabel)
    (sources.map empty.addAll, reports)

def repository {σ : Type} (settings : NativeSettings) (files : FileSystem) : Repository σ where
  name := "native[" ++ toString settings.locations.length ++ "]"
  order := settings.order
  find query memory :=
    let (outcome, logs) := settings.environment files query
    ⟨outcome, logs, memory⟩

end NativeSettings

end RemoteConfig
