import RemoteConfig.Crypto.Rsa
import RemoteConfig.Login.Basic
import RemoteConfig.Text.Base64
import RemoteConfig.Vault.Settings

/-!
Contract: logins with files of the running instance: the token of a Kubernetes service account, and the
certificate of a Cloud Foundry instance.

Owns:
- which files are read, and in which order settings and files are checked;
- what the logins send, and what is signed.

Does not own: how signatures are made.
-/

namespace RemoteConfig

open Login

namespace Login

/-- The text of a file. -/
def readFile (context : LoginContext) (file : LoginFile) (path : String) :
    Except ConfigError String :=
  match context.files.readText path with
  | .ok text => .ok text
  | .error fault => .error (.vault (.unreadableFile file path fault))

end Login

namespace KubernetesSettings

/-- Reads the token of the service account. -/
def prepare (settings : KubernetesSettings) (context : LoginContext) :
    Except ConfigError TokenSource := do
  let role ← required (some settings.role) "kubernetes.role" .kubernetes
  let token ← readFile context .serviceAccountToken settings.tokenFile
  pure (atMount settings.path [("role", .string role), ("jwt", .string (Text.trim token))])

end KubernetesSettings

namespace PcfSettings

/-- The path of a file: settings name it, or else an environment variable. -/
def filePath (context : LoginContext) (configured : Option String) (property name : String) :
    Except ConfigError String :=
  match Text.nonBlank configured <|> context.variableText? name with
  | some path => .ok path
  | none => .error (.settings (.vault (.missingPropertyAndVariable property name .pcf)))

/-- The signature of the login, with the name of its version. -/
def signature (key : RsaKey) (salt : Bytes) (message : String) : Except ConfigError String :=
  match key.signSalted salt (Utf8.encode message) with
  | .ok bytes => .ok ("v1:" ++ Base64.encode Base64.locator bytes)
  | .error fault => .error (.vault (.signingFailed .identity fault))

/-- What the login sends: the signature is over time, certificate and role. -/
def loginBody (role certificate keyText : String) (context : LoginContext) :
    Except ConfigError (List (String × Json)) := do
  let time := context.moment.text
  match RsaKey.ofText? keyText with
  | none => .error (.settings (.vault .invalidPrivateKey))
  | some key =>
    let signed ← signature key context.salt (time ++ certificate ++ role)
    pure
      [("role", .string role), ("cf_instance_cert", .string certificate),
        ("signing_time", .string time), ("signature", .string signed)]

/-- Reads certificate and key of the instance and signs with them. -/
def prepare (settings : PcfSettings) (context : LoginContext) : Except ConfigError TokenSource := do
  let role ← required (some settings.role) "pcf.role" .pcf
  let certificatePath ←
    filePath context settings.certificate "pcf.instance_certificate" "CF_INSTANCE_CERT"
  let keyPath ← filePath context settings.key "pcf.instance_key" "CF_INSTANCE_KEY"
  let certificate ← readFile context .instanceCertificate certificatePath
  let key ← readFile context .instanceKey keyPath
  let body ← loginBody role certificate key context
  pure (atMount settings.path body)

end PcfSettings

end RemoteConfig
