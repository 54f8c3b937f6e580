import RemoteConfig.Client.Settings
import RemoteConfig.Error

/-!
Contract: one request for remote configuration.

Owns:
- the settings, the accepted profiles and whether the configuration may be missing;
- reading a resource from an import location;
- the profiles that are asked for.

Does not own: locating the configuration.
-/

namespace RemoteConfig

/-- What to resolve, and whether it may be missing. -/
structure ConfigResource where
  settings : ClientSettings
  acceptedProfiles : List String
  isOptional : Bool
deriving DecidableEq, Repr

namespace ConfigResource

/-- A resource that has to be located. -/
def required (settings : ClientSettings) (acceptedProfiles : List String) : ConfigResource :=
  ⟨settings, acceptedProfiles, false⟩

def behind? (start text : List Char) : Option (List Char) :=
  if start.isPrefixOf text then some (text.drop start.length) else none

/-- Reads `[optional:]configserver:[locator,...]`. Locators in the location take the place of the
configured ones. -/
def ofLocation (location : String) (settings : ClientSettings) (acceptedProfiles : List String) :
    Except ConfigError ConfigResource :=
  let (isOptional, rest) := match behind? "optional:".toList location.toList with
    | some rest => (true, rest)
    | none => (false, location.toList)
  match behind? "configserver:".toList rest with
  | none => .error (.settings (.notALocation location))
  | some written =>
    let uris := Text.splitList (String.ofList written)
    let settings := if uris.isEmpty then settings else { settings with uris := uris }
    .ok ⟨settings, acceptedProfiles, isOptional⟩

/-- The profiles that are asked for: the accepted ones, or the configured ones, or the default. -/
def profiles (resource : ConfigResource) : String :=
  if resource.acceptedProfiles.isEmpty then
    let configured := Text.trim resource.settings.profile
    if configured.isEmpty then ClientSettings.defaultProfile else configured
  else Text.join "," resource.acceptedProfiles

/-- The resource for people. -/
def describe (resource : ConfigResource) : String :=
  "ConfigServerResource\x7buris=[" ++ Text.join ", " resource.settings.uris ++ "], optional="
    ++ (if resource.isOptional then "true" else "false")
    ++ ", profiles=[" ++ Text.join ", " resource.acceptedProfiles ++ "]\x7d"

end ConfigResource

end RemoteConfig
