import RemoteConfig.Crypto.Rsa
import RemoteConfig.Json.Excerpt
import RemoteConfig.Json.Writer
import RemoteConfig.Login.Basic
import RemoteConfig.Text.Base64
import RemoteConfig.Url.Parse
import RemoteConfig.Vault.Settings

/-!
Contract: logins of Google: with the identity of an instance, and with a token that the service for
credentials signs for a service account.

Owns:
- the services that are asked and what they are sent;
- the keys of service accounts, and the signed assertions that stand for them;
- what the logins send.

Does not own: how signatures are made.
-/

namespace RemoteConfig

open Login

/-- The key of a service account. -/
structure ServiceAccountKey where
  email : String
  privateKey : String
  tokenService : String
deriving DecidableEq, Repr

namespace Google

def instanceAccounts : String :=
  "http://metadata/computeMetadata/v1/instance/service-accounts"

def credentialsService : String := "https://iamcredentials.googleapis.com/v1"

/-- The service that issues tokens for keys, unless a key names another one. -/
def usualTokenService : String := "https://oauth2.googleapis.com/token"

/-- What a token is asked for. -/
def tokenScope : String := "https://www.googleapis.com/auth/cloud-platform"

/-- The way of asking for a token. -/
def grantType : String := "urn:ietf:params:oauth:grant-type:jwt-bearer"

/-- The header that the services of an instance insist on. -/
def instanceHeader : String × String := ("Metadata-Flavor", "Google")

end Google

namespace GcpGceSettings

def extendedQuery (query : Option String) (fields : List (String × String)) : String :=
  match query with
  | some present =>
    if present.isEmpty then Percent.formText fields else present ++ "&" ++ Percent.formText fields
  | none => Percent.formText fields

/-- The locator of the identity of an account for a role. -/
def identityUrl (account role : String) : Except ConfigError Url :=
  match Url.parse (Google.instanceAccounts ++ "/" ++ account ++ "/identity") with
  | .error error => .error (.settings (.vault (.invalidServiceAccount error.message)))
  | .ok url =>
    let fields := [("audience", "http://vault/" ++ role), ("format", "full")]
    .ok { url with query := some (extendedQuery url.query fields) }

/-- Gathers the identity of the instance. -/
def prepare (settings : GcpGceSettings) : Gathering TokenSource := do
  let role ← Gathering.ofExcept (required (some settings.role) "gcp_gce.role" .gcpGce)
  let url ← Gathering.ofExcept (identityUrl (orDefault settings.serviceAccount "default") role)
  let identity ← Gathering.ask (.get url.text [Google.instanceHeader])
  pure (atMount settings.path [("role", .string role), ("jwt", .string (Text.trim identity))])

end GcpGceSettings

namespace ServiceAccountKey

/-- The fields of a key that count in a text. -/
def reading : Json.Reader.Reading :=
  Json.Reader.record
    [("client_email", Json.Reader.value?), ("private_key", Json.Reader.value?),
      ("token_uri", Json.Reader.value?)]

/-- Reads a key from its document form. -/
def ofJson? (document : Json) : Option ServiceAccountKey := do
  let record ← Json.strictReader.record? 3 document
  let email ← record.field? 0 "client_email" Json.strictReader.string?
  let privateKey ← record.field? 1 "private_key" Json.strictReader.string?
  let tokenService ←
    record.fieldOr 2 "token_uri" Google.usualTokenService Json.strictReader.string?
  pure ⟨email, privateKey, tokenService⟩

/-- Reads a key from the bytes of a document. -/
def ofBytes? (bytes : Bytes) : Option ServiceAccountKey := do
  ofJson? (← Json.parseBy? reading (← Utf8.decode? bytes))

/-- The text of a document as a part of an assertion. -/
def assertionPart (document : Json) : String :=
  Base64.encodeText Base64.compactLocator document.compact

/-- What an assertion of a key says. -/
def claims (key : ServiceAccountKey) (now : Int) : Json :=
  Json.ofFields
    [("iss", .string key.email), ("scope", .string Google.tokenScope),
      ("aud", .string key.tokenService), ("iat", Json.ofInt now), ("exp", Json.ofInt (now + 3600))]

def assertion (key : ServiceAccountKey) (now : Int) : Except ConfigError String :=
  let header := Json.ofFields [("alg", .string "RS256"), ("typ", .string "JWT")]
  let input := assertionPart header ++ "." ++ assertionPart (key.claims now)
  match RsaKey.ofText? key.privateKey with
  | none => .error (.settings (.vault .invalidPrivateKey))
  | some signingKey =>
    match signingKey.sign (Utf8.encode input) with
    | .error fault => .error (.vault (.signingFailed .assertion fault))
    | .ok signature => .ok (input ++ "." ++ Base64.encode Base64.compactLocator signature)

def accessToken (key : ServiceAccountKey) (now : Int) : Gathering String := do
  let assertion ← Gathering.ofExcept (key.assertion now)
  let form := Percent.formText [("grant_type", Google.grantType), ("assertion", assertion)]
  let answer ← Gathering.ask
    (.post key.tokenService form [("Content-Type", "application/x-www-form-urlencoded")])
  Gathering.textField .googleToken "access_token" answer

end ServiceAccountKey

namespace GcpKeySource

/-- The bytes of the key, when there is one: written out, or else in a file. -/
def bytes (source : GcpKeySource) (context : LoginContext) : Except ConfigError (Option Bytes) :=
  match Text.nonBlank source.encodedKey, Text.nonBlank source.location with
  | some encoded, _ =>
    match Base64.decode? Base64.standard (Text.trim encoded).toList with
    | some bytes => .ok (some bytes)
    | none => .error (.settings (.vault .invalidEncodedKey))
  | none, some location =>
    match context.files.readBytes location with
    | .ok bytes => .ok (some bytes)
    | .error fault => .error (.settings (.vault (.unreadableKey location fault)))
  | none, none => .ok none

def key (source : GcpKeySource) (context : LoginContext) :
    Except ConfigError (Option ServiceAccountKey) :=
  match source.bytes context with
  | .error error => .error error
  | .ok none => .ok none
  | .ok (some bytes) =>
    match ServiceAccountKey.ofBytes? bytes with
    | some key => .ok (some key)
    | none => .error (.settings (.vault .invalidKeyDocument))

end GcpKeySource

namespace GcpIamSettings

/-- Gathers an access token for the account of the instance. -/
def instanceToken : Gathering String := do
  let answer ← Gathering.ask
    (.get (Google.instanceAccounts ++ "/default/token") [Google.instanceHeader])
  Gathering.textField .googleMetadata "access_token" answer

/-- The service account: settings name it, or else the key. -/
def serviceAccount (settings : GcpIamSettings) (key : Option ServiceAccountKey) :
    Except ConfigError String :=
  let found := Text.nonBlank (some settings.serviceAccountId) <|> key.map ServiceAccountKey.email
  required found "gcp_iam.service_account_id" .gcpIam

/-- When the token of the login ends. -/
def expiry (settings : GcpIamSettings) (now : Int) : Int :=
  min (now + min (settings.validity : Int) greatestTime) greatestTime

/-- The request for the signature of the token of the login. -/
def signingRequest (settings : GcpIamSettings) (role account accessToken : String) (now : Int) :
    ExternalRequest :=
  let payload := Json.ofFields
    [("aud", .string ("vault/" ++ role)), ("sub", .string account),
      ("exp", Json.ofInt (settings.expiry now))]
  let project := orDefault settings.projectId "-"
  .post
    (Google.credentialsService ++ "/projects/" ++ project ++ "/serviceAccounts/" ++ account
      ++ ":signJwt")
    (Json.ofFields [("payload", .string payload.compact)]).compact
    [("Authorization", "Bearer " ++ accessToken), ("Content-Type", "application/json")]

/-- Gathers an access token, and with it a signed token for the login. -/
def prepare (settings : GcpIamSettings) (context : LoginContext) : Gathering TokenSource := do
  let role ← Gathering.ofExcept (required (some settings.role) "gcp_iam.role" .gcpIam)
  let key ← Gathering.ofExcept (settings.credentials.key context)
  let account ← Gathering.ofExcept (settings.serviceAccount key)
  let accessToken ← match key with
    | some key => key.accessToken context.now
    | none => instanceToken
  Gathering.tell (.debug "Signing GCP IAM login JWT" [("service_account", account)])
  let answer ← Gathering.ask (settings.signingRequest role account accessToken context.now)
  let signed ← Gathering.textField .googleSigning "signedJwt" answer
  pure (atMount settings.path [("role", .string role), ("jwt", .string signed)])

end GcpIamSettings

end RemoteConfig
