import RemoteConfig.Text.Diagnostic
import RemoteConfig.Vault.Settings

/-!
Contract: the settings of a repository of Vault secrets as diagnostic texts.

Owns:
- which of the settings are shown, and which ones are withheld.

Does not own: the shapes of diagnostic texts.
-/

namespace RemoteConfig

namespace Vault.Shown

/-- A text in quotes. -/
def text (value : String) : String :=
  Diagnostic.quoted value

/-- An optional text in quotes. -/
def optional (value : Option String) : String :=
  Diagnostic.option Diagnostic.quoted value

/-- Tells only whether there is a secret. -/
def secret (value : Option String) : String :=
  optional (value.map fun _ => "<redacted>")

def flag (value : Bool) : String :=
  if value then "true" else "false"

end Vault.Shown

open Vault

/-- The diagnostic text of the settings of an application role. -/
def AppRoleSettings.describe (settings : AppRoleSettings) : String :=
  Diagnostic.record "AppRoleProperties"
    [("app_role_path", Shown.text settings.path), ("role", Shown.text settings.role),
      ("role_id", Shown.optional settings.roleId),
      ("secret_id", Shown.optional settings.secretId)]

/-- The diagnostic text of the settings of an EC2 login. -/
def AwsEc2Settings.describe (settings : AwsEc2Settings) : String :=
  Diagnostic.record "AwsEc2Properties"
    [("identity_document", Shown.text settings.identityDocument),
      ("aws_ec2_path", Shown.text settings.path), ("role", Shown.text settings.role),
      ("nonce", Shown.optional settings.nonce)]

/-- The diagnostic text of the settings of an IAM login. -/
def AwsIamSettings.describe (settings : AwsIamSettings) : String :=
  Diagnostic.record "AwsIamProperties"
    [("aws_path", Shown.text settings.path), ("role", Shown.text settings.role),
      ("server_name", Shown.optional settings.serverName),
      ("endpoint_uri", Shown.optional settings.endpoint)]

/-- The diagnostic text of the settings of an Azure login. -/
def AzureMsiSettings.describe (settings : AzureMsiSettings) : String :=
  Diagnostic.record "AzureMsiProperties"
    [("azure_path", Shown.text settings.path), ("role", Shown.text settings.role),
      ("identity_token_service", Shown.text settings.tokenService),
      ("metadata_service", Shown.text settings.metadataService)]

/-- The diagnostic text of the settings of a Compute Engine login. -/
def GcpGceSettings.describe (settings : GcpGceSettings) : String :=
  Diagnostic.record "GcpGceProperties"
    [("gcp_path", Shown.text settings.path), ("role", Shown.text settings.role),
      ("service_account", Shown.text settings.serviceAccount)]

/-- The diagnostic text of the key of a service account, without the key. -/
def GcpKeySource.describe (source : GcpKeySource) : String :=
  Diagnostic.record "GcpCredentials"
    [("location", Shown.optional source.location), ("encoded_key", Shown.secret source.encodedKey)]

/-- The diagnostic text of the settings of a Google login. -/
def GcpIamSettings.describe (settings : GcpIamSettings) : String :=
  Diagnostic.record "GcpIamProperties"
    [("credentials", settings.credentials.describe), ("gcp_path", Shown.text settings.path),
      ("role", Shown.text settings.role), ("project_id", Shown.text settings.projectId),
      ("service_account_id", Shown.text settings.serviceAccountId),
      ("jwt_validity", toString settings.validity)]

/-- The diagnostic text of the settings of a Kubernetes login. -/
def KubernetesSettings.describe (settings : KubernetesSettings) : String :=
  Diagnostic.record "KubernetesProperties"
    [("kubernetes_path", Shown.text settings.path), ("role", Shown.text settings.role),
      ("service_account_token_file", Shown.text settings.tokenFile)]

/-- The diagnostic text of the settings of a Cloud Foundry login. -/
def PcfSettings.describe (settings : PcfSettings) : String :=
  Diagnostic.record "PcfProperties"
    [("pcf_path", Shown.text settings.path), ("role", Shown.text settings.role),
      ("instance_certificate", Shown.optional settings.certificate),
      ("instance_key", Shown.optional settings.key)]

/-- The diagnostic text of the stores of certificates, without their passwords. -/
def TlsSettings.describe (settings : TlsSettings) : String :=
  Diagnostic.record "SslProperties"
    [("key_store", Shown.optional settings.keyStore),
      ("key_store_password", Shown.secret settings.keyStorePassword),
      ("trust_store", Shown.optional settings.trustStore),
      ("trust_store_password", Shown.secret settings.trustStorePassword),
      ("cert_auth_path", Shown.text settings.path)]

def VaultSettings.describe (settings : VaultSettings) : String :=
  Diagnostic.record "VaultEnvironmentProperties"
    [("host", Shown.text settings.host), ("port", toString settings.port),
      ("scheme", Shown.text settings.scheme), ("timeout", toString settings.timeout),
      ("backend", Shown.text settings.backend), ("default_key", Shown.text settings.defaultKey),
      ("path_to_key", Shown.text settings.pathToKey),
      ("profile_separator", Shown.text settings.profileSeparator),
      ("order", toString settings.order), ("kv_version", toString settings.kvVersion),
      ("namespace", Shown.optional settings.namespaceName),
      ("skip_ssl_validation", Shown.flag settings.skipsValidation),
      ("token", Shown.optional settings.token),
      ("enable_label", Shown.flag settings.labelEnabled),
      ("default_label", Shown.text settings.defaultLabel),
      ("app_role", settings.appRole.describe), ("aws_ec2", settings.awsEc2.describe),
      ("aws_iam", settings.awsIam.describe), ("azure_msi", settings.azureMsi.describe),
      ("gcp_gce", settings.gcpGce.describe), ("gcp_iam", settings.gcpIam.describe),
      ("kubernetes", settings.kubernetes.describe), ("pcf", settings.pcf.describe),
      ("ssl", settings.tls.describe),
      ("authentication", Diagnostic.option LoginMethod.diagnosticName settings.method)]

end RemoteConfig
