import RemoteConfig.Client.FetchError
import RemoteConfig.Vault.Fault

/-!
Contract: why configuration could not be located, served or read.

Owns:
- the causes, grouped by the kind of failure;
- their wording.

Does not own: the failures of single round trips to config servers, and those of a Vault.
-/

namespace RemoteConfig

/-- What could not be loaded. -/
inductive LoadFault where
  | clientSettings
  | vaultSettings
  | file (path : String)
  | repository (name reason : String)
  | mergeLayer (layer : String)
  | buildConfiguration
deriving DecidableEq, Repr

/-- What was loaded but is not of the expected shape. -/
inductive ShapeFault where
  | clientSettings
  | vaultSettings
  | configuration
deriving DecidableEq, Repr

/-- Settings that are missing or contradictory. -/
inductive SettingsFault where
  | notALocation (location : String)
  | noRepositories
  | labelOutside (label : String)
  | vault (fault : VaultSettingFault)
deriving DecidableEq, Repr

/-- Why the client must not go on: its settings say so, or the resource is required. -/
inductive Insistence where
  | failFast
  | required
deriving DecidableEq, Repr

/-- The kinds of failure. -/
inductive ConfigError where
  | load (fault : LoadFault)
  | shape (fault : ShapeFault)
  | fetch (error : FetchError)
  | failFast (insistence : Insistence) (detail : Option String) (cause : Option FetchError)
  | settings (fault : SettingsFault)
  | vault (fault : VaultFault)
  | other (text : String)
deriving DecidableEq, Repr

namespace LoadFault

/-- The wording of a fault. -/
def message : LoadFault → String
  | clientSettings => "Failed to load client settings: " ++ withheldReason
  | vaultSettings => "Failed to load Vault settings: " ++ withheldReason
  | file path => "Failed to load " ++ path ++ ": " ++ withheldReason
  | repository name reason => "Failed to load repository '" ++ name ++ "': " ++ reason
  | mergeLayer layer => "Failed to merge layer '" ++ layer ++ "': " ++ withheldReason
  | buildConfiguration => "Failed to build configuration: " ++ withheldReason

end LoadFault

namespace ShapeFault

/-- The wording of a fault. -/
def message : ShapeFault → String
  | clientSettings => "Invalid client settings: " ++ withheldReason
  | vaultSettings => "Invalid Vault settings: " ++ withheldReason
  | configuration => "Failed to deserialize configuration: " ++ withheldReason

end ShapeFault

namespace SettingsFault

/-- The wording of a fault. -/
def message : SettingsFault → String
  | notALocation location => "'" ++ location ++ "' is not a config server location"
  | noRepositories => "No environment repositories configured"
  | labelOutside label =>
    "Label '" ++ label ++ "' does not name a directory inside the search locations"
  | vault fault => fault.message

end SettingsFault

namespace Insistence

/-- The wording of a reason not to go on. -/
def reason : Insistence → String
  | failFast => "the fail fast property is set"
  | required => "the resource is not optional"

end Insistence

namespace ConfigError

/-- The wording of a failure. -/
def message : ConfigError → String
  | load fault => "Failed to load configuration: " ++ fault.message
  | shape fault => "Failed to deserialize configuration: " ++ fault.message
  | fetch error => error.message
  | failFast insistence detail _ =>
    "Could not locate PropertySource and " ++ insistence.reason ++ ", failing"
      ++ (match detail with
        | some text => ": " ++ text
        | none => "")
  | settings fault => "Invalid configuration: " ++ fault.message
  | vault fault => "Vault error: " ++ fault.message
  | other text => "Configuration error: " ++ text

end ConfigError

end RemoteConfig
