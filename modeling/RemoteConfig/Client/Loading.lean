import RemoteConfig.Client.Settings
import RemoteConfig.Error
import RemoteConfig.Tree.Reader
import RemoteConfig.Tree.Source

/-!
Contract: loading the settings of a client from a file and environment variables.

Owns:
- the start of the names of the variables, and the setting that is a list;
- the failures of loading.

Does not own: the shape of the settings.
-/

namespace RemoteConfig.ClientSettings

/-- The start of the names of the variables that configure a client. -/
def variableStart : String := "CONFIG_CLIENT"

/-- Loads settings from an optional file, and from the variables whose names start in a given way;
variables win. The locations of servers may be given as a comma-delimited list. -/
def loadWith (files : FileSystem) (path : Option String) (start : String) (exported : Variables) :
    Except ConfigError ClientSettings :=
  match Tree.load? files path start ["uri"] exported with
  | none => .error (.load .clientSettings)
  | some tree =>
    match read? Tree.reader tree with
    | some settings => .ok settings
    | none => .error (.shape .clientSettings)

/-- Loads settings from an optional file and from the variables of the client. -/
def load (files : FileSystem) (path : Option String) (exported : Variables) :
    Except ConfigError ClientSettings :=
  loadWith files path variableStart exported

end RemoteConfig.ClientSettings
