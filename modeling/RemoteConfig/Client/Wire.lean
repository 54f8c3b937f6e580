import RemoteConfig.Client.Settings

/-!
Contract: the document form of the settings of a client.

Owns:
- writing all settings, secrets included, under the names by which they are read.

Does not own: reading settings.
-/

namespace RemoteConfig

def UriStrategy.name : UriStrategy → String
  | connectionTimeoutOnly => "connection-timeout-only"
  | always => "always"

/-- The document form of the settings of discovery. -/
def DiscoverySettings.toJson (settings : DiscoverySettings) : Json :=
  Json.ofFields
    [("enabled", .bool settings.enabled), ("service_id", .string settings.serviceId)]

namespace ClientSettings

/-- The fields of the document form. -/
def fields (settings : ClientSettings) : Json.Fields :=
  [("name", .string settings.name),
    ("profile", .string settings.profile),
    ("label", Json.ofOption settings.label),
    ("uri", Json.ofStrings settings.uris),
    ("username", .string settings.username),
    ("password", Json.ofOption settings.password),
    ("token", Json.ofOption settings.token),
    ("media_type", .string settings.mediaType),
    ("charset", .string settings.charset),
    ("fail_fast", .bool settings.failFast),
    ("send_state", .bool settings.sendState),
    ("send_all_labels", .bool settings.sendAllLabels),
    ("multiple_uri_strategy", .string settings.strategy.name),
    ("discovery", settings.discovery.toJson),
    ("headers", Json.ofFields (settings.headers.map fun (name, value) => (name, .string value))),
    ("request_connect_timeout", Json.ofNat settings.connectTimeout),
    ("request_read_timeout", Json.ofNat settings.readTimeout)]

/-- The document form, from which the settings can be read again. -/
def toJson (settings : ClientSettings) : Json :=
  Json.ofFields settings.fields

end ClientSettings

end RemoteConfig
