import RemoteConfig.Error
import RemoteConfig.Tree.Reader
import RemoteConfig.Tree.Source
import RemoteConfig.Url.Parse
import RemoteConfig.Vault.Settings

/-!
Contract: loading the settings of a repository of Vault secrets, and the address that they give.

Owns:
- the start of the names of the variables, and the failures of loading;
- the locator built from scheme, host and port.

Does not own: the shape of the settings.
-/

namespace RemoteConfig.VaultSettings

/-- The start of the names of the variables that configure a repository of secrets. -/
def variableStart : String := "CONFIG_SERVER_VAULT"

/-- Loads settings from an optional file and from variables, which win. -/
def load (files : FileSystem) (path : Option String) (exported : Variables) :
    Except ConfigError VaultSettings :=
  match Tree.load? files path variableStart [] exported with
  | none => .error (.load .vaultSettings)
  | some tree =>
    match read? Tree.reader tree with
    | some settings => .ok settings
    | none => .error (.shape .vaultSettings)

def writtenAddress (settings : VaultSettings) : String :=
  settings.scheme ++ "://" ++ settings.host ++ ":" ++ toString settings.port

/-- The locator that all secrets are below of. -/
def baseUrl (settings : VaultSettings) : Except ConfigError Url :=
  match Url.parse settings.writtenAddress with
  | .ok url => .ok url
  | .error error =>
    .error (.settings (.vault (.invalidAddress settings.writtenAddress error.message)))

end RemoteConfig.VaultSettings
