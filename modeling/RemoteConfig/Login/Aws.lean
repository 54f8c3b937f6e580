import RemoteConfig.Json.Writer
import RemoteConfig.Login.Basic
import RemoteConfig.Login.RequestSignature
import RemoteConfig.Text.Base64
import RemoteConfig.Url.Parse
import RemoteConfig.Vault.Settings

/-!
Contract: logins of AWS: with the identity document of an instance, and with a signed request.

Owns:
- what both logins send;
- access keys out of environment variables;
- the request that is signed and its region.

Does not own: how requests are signed.
-/

namespace RemoteConfig

open Login

namespace AwsEc2Settings

/-- Gathers the identity document, whose lines become one. -/
def prepare (settings : AwsEc2Settings) : Gathering TokenSource := do
  let document ← Gathering.ask (.get settings.identityDocument [])
  let joined := String.join ((Text.splitAt '\n' document).map Text.trim)
  pure (atMount settings.path
    ([("pkcs7", .string joined)] ++ optionalField "role" (some settings.role)
      ++ optionalField "nonce" settings.nonce))

end AwsEc2Settings

namespace AwsCredentials

/-- An environment variable that must have text. -/
def requiredVariable (context : LoginContext) (name : String) : Except ConfigError String :=
  match context.variableText? name with
  | some found => .ok found
  | none => .error (.settings (.vault (.missingVariable name .awsIam)))

/-- The access key that environment variables hold. -/
def ofVariables (context : LoginContext) : Except ConfigError AwsCredentials := do
  let accessKeyId ← requiredVariable context "AWS_ACCESS_KEY_ID"
  let secretAccessKey ← requiredVariable context "AWS_SECRET_ACCESS_KEY"
  pure ⟨accessKeyId, secretAccessKey, context.variableText? "AWS_SESSION_TOKEN"⟩

end AwsCredentials

namespace AwsIamSettings

/-- The token service that is asked unless settings name another one. -/
def globalEndpoint : String := "https://sts.amazonaws.com/"

/-- The region of the global token service. -/
def globalRegion : String := "us-east-1"

/-- The body of the signed request, which asks for the identity of the caller. -/
def identityQuery : String := "Action=GetCallerIdentity&Version=2011-06-15"

/-- The region of a token service: hosts of single regions name it. -/
def region (host : String) : String :=
  match Text.splitAt '.' host with
  | "sts" :: region :: "amazonaws" :: _ => region
  | _ => globalRegion

/-- The token service of some settings as it is written. -/
def writtenEndpoint (settings : AwsIamSettings) : String :=
  (Text.nonBlank settings.endpoint).getD globalEndpoint

/-- The locator of the token service, and its host. -/
def endpointUrl (settings : AwsIamSettings) : Except ConfigError (Url × Host) :=
  let written := settings.writtenEndpoint
  match Url.parse written with
  | .error error => .error (.settings (.vault (.invalidEndpoint written error.message)))
  | .ok url =>
    match url.host with
    | some host => .ok (url, host)
    | none => .error (.settings (.vault (.endpointWithoutHost written)))

def signedHeaders (settings : AwsIamSettings) (credentials : AwsCredentials) (url : Url)
    (moment : Moment) : List (String × String) :=
  [("Content-Type", "application/x-www-form-urlencoded; charset=utf-8"),
    ("Host", url.hostText ++ url.portText), ("X-Amz-Date", moment.plainText)]
    ++ (credentials.sessionToken.map fun token => ("X-Amz-Security-Token", token)).toList
    ++ ((Text.nonBlank settings.serverName).map fun server =>
        ("X-Vault-AWS-IAM-Server-ID", server)).toList

/-- The request that is signed. -/
def identityRequest (settings : AwsIamSettings) (credentials : AwsCredentials) (url : Url)
    (host : Host) (moment : Moment) : SignableRequest where
  method := "POST"
  path := url.pathText
  headers := settings.signedHeaders credentials url moment
  body := identityQuery
  region := region host.text
  service := "sts"

/-- What the login sends: the parts of the signed request, for the Vault to repeat it. -/
def loginBody (settings : AwsIamSettings) (credentials : AwsCredentials) (moment : Moment) :
    Except ConfigError (List (String × Json)) := do
  let (url, host) ← settings.endpointUrl
  let request := settings.identityRequest credentials url host moment
  let signature := ("Authorization", request.authorization credentials moment)
  let headers := Json.ofFields <| (request.headers ++ [signature]).map fun header =>
    (header.1, Json.ofStrings [header.2])
  let encoded (text : String) : Json := .string (Base64.encodeText Base64.standard text)
  pure
    ([("iam_http_request_method", .string request.method),
      ("iam_request_url", encoded url.text),
      ("iam_request_body", encoded request.body),
      ("iam_request_headers", encoded headers.compact)]
      ++ optionalField "role" (some settings.role))

/-- Signs a request with the access key of the environment. -/
def prepare (settings : AwsIamSettings) (context : LoginContext) : Except ConfigError TokenSource := do
  let credentials ← AwsCredentials.ofVariables context
  let body ← settings.loginBody credentials context.moment
  pure (atMount settings.path body)

end AwsIamSettings

end RemoteConfig
