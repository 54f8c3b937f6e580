import RemoteConfig.Login.Basic
import RemoteConfig.Vault.Settings

/-!
Contract: the login with a managed identity of Azure.

Owns:
- the services that describe an instance and issue its identity;
- what the login sends.

Does not own: the settings of the login.
-/

namespace RemoteConfig.AzureMsiSettings

open Login

/-- The service that describes an instance, unless settings name another one. -/
def usualMetadataService : String :=
  "http://169.254.169.254/metadata/instance?api-version=2017-08-01"

/-- The service that issues the identity of an instance, unless settings name another one. -/
def usualTokenService : String :=
  "http://169.254.169.254/metadata/identity/oauth2/token?resource=https://vault.hashicorp.com&api-version=2018-02-01"

def serviceRequest (url : String) : ExternalRequest :=
  .get url [("Metadata", "true")]

/-- A text out of the description of an instance; empty when there is none. -/
def descriptionText (description : Json) (name : String) : String :=
  ((description.follow? ["compute", name]).bind Json.asString?).getD ""

/-- Gathers the description and the identity of the instance. -/
def prepare (settings : AzureMsiSettings) : Gathering TokenSource := do
  let role ← Gathering.ofExcept (required (some settings.role) "azure_msi.role" .azureMsi)
  let metadata ←
    Gathering.ask (serviceRequest (orDefault settings.metadataService usualMetadataService))
  let description ← Gathering.document .azureMetadata metadata
  let answer ← Gathering.ask (serviceRequest (orDefault settings.tokenService usualTokenService))
  let identity ← Gathering.textField .azureToken "access_token" answer
  let described (name : String) : Json := .string (descriptionText description name)
  pure (atMount settings.path
    [("role", .string role), ("jwt", .string identity),
      ("subscription_id", described "subscriptionId"),
      ("resource_group_name", described "resourceGroupName"),
      ("vm_name", described "name"),
      ("vmss_name", described "vmScaleSetName")])

end RemoteConfig.AzureMsiSettings
