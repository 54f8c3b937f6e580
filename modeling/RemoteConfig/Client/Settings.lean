import RemoteConfig.Json.ValueReader
import RemoteConfig.Text.Split

/-!
Contract: the settings of a client of config servers.

Owns:
- the settings with their defaults;
- reading them from untyped values, strictly or leniently;
- the labels that a client tries, in order.

Does not own: where the untyped values come from.
-/

namespace RemoteConfig

/-- When a walk over several servers goes on to the next one. -/
inductive UriStrategy where
  | connectionTimeoutOnly
  | always
deriving DecidableEq, Repr, Inhabited

/-- Whether servers are discovered, and the service they are looked up by. -/
structure DiscoverySettings where
  enabled : Bool
  serviceId : String
deriving DecidableEq, Repr, Inhabited

/-- The settings of a client. Timeouts are in milliseconds, and the headers are a map that is listed in
some order. -/
structure ClientSettings where
  name : String
  profile : String
  label : Option String
  uris : List String
  username : String
  password : Option String
  token : Option String
  mediaType : String
  charset : String
  failFast : Bool
  sendState : Bool
  sendAllLabels : Bool
  strategy : UriStrategy
  discovery : DiscoverySettings
  headers : List (String × String)
  connectTimeout : Nat
  readTimeout : Nat
deriving DecidableEq, Repr, Inhabited

namespace UriStrategy

/-- The accepted names of the strategies. -/
def names : List (List String) :=
  [["connection-timeout-only", "CONNECTION_TIMEOUT_ONLY", "connection_timeout_only"],
    ["always", "ALWAYS"]]

def read? {V : Type} (reader : ValueReader V) (value : V) : Option UriStrategy :=
  (reader.choice? names value).map fun position =>
    if position = 0 then .connectionTimeoutOnly else .always

end UriStrategy

namespace DiscoverySettings

/-- Without discovery. -/
def defaults : DiscoverySettings :=
  ⟨false, "configserver"⟩

def read? {V : Type} (reader : ValueReader V) (value : V) : Option DiscoverySettings := do
  let record ← reader.record? 2 value
  let enabled ← record.fieldOr 0 "enabled" defaults.enabled reader.bool?
  let serviceId ← record.fieldOr 1 "service_id" defaults.serviceId reader.string?
  pure ⟨enabled, serviceId⟩

end DiscoverySettings

namespace ClientSettings

/-- The profile that stands for none in particular. -/
def defaultProfile : String := "default"

/-- The media type of environments that report origins. -/
def defaultMediaType : String := "application/vnd.spring-cloud.config-server.v2+json"

/-- The settings of a client for which nothing was set. -/
def defaults : ClientSettings where
  name := "application"
  profile := defaultProfile
  label := none
  uris := ["http://localhost:8888"]
  username := "user"
  password := none
  token := none
  mediaType := defaultMediaType
  charset := "UTF-8"
  failFast := false
  sendState := true
  sendAllLabels := false
  strategy := .connectionTimeoutOnly
  discovery := DiscoverySettings.defaults
  headers := []
  connectTimeout := 10000
  readTimeout := 185000

/-- Reads settings; what is absent has its default, and unknown fields are ignored. -/
def read? {V : Type} (reader : ValueReader V) (value : V) : Option ClientSettings := do
  let record ← reader.record? 17 value
  let optionalText := reader.optional? reader.string?
  let duration := reader.natural? (Number.twoTo 64)
  let name ← record.fieldOr 0 "name" defaults.name reader.string?
  let profile ← record.fieldOr 1 "profile" defaults.profile reader.string?
  let label ← record.fieldOr 2 "label" defaults.label optionalText
  let uris ← record.fieldOr 3 "uri" defaults.uris reader.strings?
  let username ← record.fieldOr 4 "username" defaults.username reader.string?
  let password ← record.fieldOr 5 "password" defaults.password optionalText
  let token ← record.fieldOr 6 "token" defaults.token optionalText
  let mediaType ← record.fieldOr 7 "media_type" defaults.mediaType reader.string?
  let charset ← record.fieldOr 8 "charset" defaults.charset reader.string?
  let failFast ← record.fieldOr 9 "fail_fast" defaults.failFast reader.bool?
  let sendState ← record.fieldOr 10 "send_state" defaults.sendState reader.bool?
  let sendAllLabels ← record.fieldOr 11 "send_all_labels" defaults.sendAllLabels reader.bool?
  let strategy ←
    record.fieldOr 12 "multiple_uri_strategy" defaults.strategy (UriStrategy.read? reader)
  let discovery ←
    record.fieldOr 13 "discovery" defaults.discovery (DiscoverySettings.read? reader)
  let headers ← record.fieldOr 14 "headers" defaults.headers (reader.map? reader.string?)
  let connectTimeout ←
    record.fieldOr 15 "request_connect_timeout" defaults.connectTimeout duration
  let readTimeout ← record.fieldOr 16 "request_read_timeout" defaults.readTimeout duration
  pure
    { name, profile, label, uris, username, password, token, mediaType, charset, failFast,
      sendState, sendAllLabels, strategy, discovery, headers, connectTimeout, readTimeout }

/-- Is a label with text configured? -/
def hasLabel (settings : ClientSettings) : Bool :=
  settings.label.any Text.hasText

/-- The labels to try, in order: the parts of a comma-delimited label, or the whole label when all
labels are sent at once. Without a label the empty one is tried, which is the server's default. -/
def candidateLabels (settings : ClientSettings) : List String :=
  match Text.nonBlank settings.label with
  | none => [""]
  | some label => if settings.sendAllLabels then [label] else Text.splitAt ',' label

end ClientSettings

end RemoteConfig
