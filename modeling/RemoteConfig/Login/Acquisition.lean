import RemoteConfig.Login.Aws
import RemoteConfig.Login.Azure
import RemoteConfig.Login.Google
import RemoteConfig.Login.Instance

/-!
Contract: acquiring a token by the method that settings choose.

Owns:
- where the token of each method comes from;
- acquisitions, which gather first and then log in at most once.

Does not own: what the single methods gather.
-/

namespace RemoteConfig

open Login

namespace VaultSettings

/-- The method of some settings; without one the token is given. -/
def effectiveMethod (settings : VaultSettings) : LoginMethod :=
  settings.method.getD .token

/-- The login with a role id and a secret id. -/
def prepareAppRole (settings : AppRoleSettings) : Except ConfigError TokenSource := do
  let roleId ← required settings.roleId "app_role.role_id" .appRole
  let secretId ← required settings.secretId "app_role.secret_id" .appRole
  pure (atMount settings.path [("role_id", .string roleId), ("secret_id", .string secretId)])

/-- The login with a client certificate, which the connection itself presents. -/
def prepareCert (settings : TlsSettings) : Except ConfigError TokenSource := do
  let _ ← required settings.keyStore "ssl.key_store" .cert
  pure (atMount settings.path [])

/-- The path at which a wrapped token is unwrapped. -/
def unwrapPath : String := "sys/wrapping/unwrap"

/-- Gathers what the method of some settings needs. -/
def prepare (settings : VaultSettings) (context : LoginContext) : Gathering TokenSource :=
  match settings.effectiveMethod with
  | .token => Gathering.ofExcept ((required settings.token "token" .token).map .given)
  | .cubbyhole =>
    Gathering.ofExcept ((required settings.token "token" .cubbyhole).map fun token =>
      .login unwrapPath (Json.ofFields []) (some token))
  | .appRole => Gathering.ofExcept (prepareAppRole settings.appRole)
  | .cert => Gathering.ofExcept (prepareCert settings.tls)
  | .kubernetes => Gathering.ofExcept (settings.kubernetes.prepare context)
  | .awsEc2 => settings.awsEc2.prepare
  | .awsIam => Gathering.ofExcept (settings.awsIam.prepare context)
  | .azureMsi => settings.azureMsi.prepare
  | .gcpGce => settings.gcpGce.prepare
  | .gcpIam => settings.gcpIam.prepare context
  | .pcf => Gathering.ofExcept (settings.pcf.prepare context)

end VaultSettings

/-- What an acquisition did, and the token that it yields. -/
structure Acquisition where
  calls : List VaultCall
  logs : List LogLine
  outcome : Except ConfigError String

namespace VaultSettings

/-- Acquires a token after the calls of a history. -/
def acquireToken (settings : VaultSettings) (context : LoginContext) (operations : VaultOperations)
    (history : List VaultCall) : Acquisition :=
  let opening := LogLine.debug "Acquiring Vault token" [("method", settings.effectiveMethod.name)]
  let gathered := (settings.prepare context).run operations history
  let fetches := gathered.requests.map VaultCall.fetch
  let logs := opening :: gathered.logs
  match gathered.outcome with
  | .error error => ⟨fetches, logs, .error error⟩
  | .ok (.given token) => ⟨fetches, logs, .ok token⟩
  | .ok (.login path body token) =>
    ⟨fetches ++ [.login path body token], logs,
      operations.login (history ++ fetches) path body token⟩

end VaultSettings

end RemoteConfig
