import RemoteConfig.Vault.Settings

/-!
Contract: the document form of the settings of a repository of Vault secrets.

Owns:
- writing all settings, secrets included, under the names by which they are read.

Does not own: reading settings, and showing them without secrets.
-/

namespace RemoteConfig

/-- The document form of the settings of an application role. -/
def AppRoleSettings.toJson (settings : AppRoleSettings) : Json :=
  Json.ofFields
    [("app_role_path", .string settings.path), ("role", .string settings.role),
      ("role_id", Json.ofOption settings.roleId), ("secret_id", Json.ofOption settings.secretId)]

/-- The document form of the settings of an EC2 login. -/
def AwsEc2Settings.toJson (settings : AwsEc2Settings) : Json :=
  Json.ofFields
    [("identity_document", .string settings.identityDocument),
      ("aws_ec2_path", .string settings.path), ("role", .string settings.role),
      ("nonce", Json.ofOption settings.nonce)]

/-- The document form of the settings of an IAM login. -/
def AwsIamSettings.toJson (settings : AwsIamSettings) : Json :=
  Json.ofFields
    [("aws_path", .string settings.path), ("role", .string settings.role),
      ("server_name", Json.ofOption settings.serverName),
      ("endpoint_uri", Json.ofOption settings.endpoint)]

/-- The document form of the settings of an Azure login. -/
def AzureMsiSettings.toJson (settings : AzureMsiSettings) : Json :=
  Json.ofFields
    [("azure_path", .string settings.path), ("role", .string settings.role),
      ("identity_token_service", .string settings.tokenService),
      ("metadata_service", .string settings.metadataService)]

/-- The document form of the settings of a Compute Engine login. -/
def GcpGceSettings.toJson (settings : GcpGceSettings) : Json :=
  Json.ofFields
    [("gcp_path", .string settings.path), ("role", .string settings.role),
      ("service_account", .string settings.serviceAccount)]

/-- The document form of the key of a service account. -/
def GcpKeySource.toJson (source : GcpKeySource) : Json :=
  Json.ofFields
    [("location", Json.ofOption source.location),
      ("encoded_key", Json.ofOption source.encodedKey)]

/-- The document form of the settings of a Google login, given that of its key. -/
def GcpIamSettings.toJsonWith (settings : GcpIamSettings) (credentials : Json) : Json :=
  Json.ofFields
    [("credentials", credentials), ("gcp_path", .string settings.path),
      ("role", .string settings.role), ("project_id", .string settings.projectId),
      ("service_account_id", .string settings.serviceAccountId),
      ("jwt_validity", Json.ofNat settings.validity)]

/-- The document form of the settings of a Kubernetes login. -/
def KubernetesSettings.toJson (settings : KubernetesSettings) : Json :=
  Json.ofFields
    [("kubernetes_path", .string settings.path), ("role", .string settings.role),
      ("service_account_token_file", .string settings.tokenFile)]

/-- The document form of the settings of a Cloud Foundry login. -/
def PcfSettings.toJson (settings : PcfSettings) : Json :=
  Json.ofFields
    [("pcf_path", .string settings.path), ("role", .string settings.role),
      ("instance_certificate", Json.ofOption settings.certificate),
      ("instance_key", Json.ofOption settings.key)]

/-- The document form of the stores of certificates. -/
def TlsSettings.toJson (settings : TlsSettings) : Json :=
  Json.ofFields
    [("key_store", Json.ofOption settings.keyStore),
      ("key_store_password", Json.ofOption settings.keyStorePassword),
      ("trust_store", Json.ofOption settings.trustStore),
      ("trust_store_password", Json.ofOption settings.trustStorePassword),
      ("cert_auth_path", .string settings.path)]

namespace VaultSettings

/-- The fields of the document form, given those of the key of a Google login and of the stores of
certificates. -/
def fieldsWith (settings : VaultSettings) (credentials tls : Json) : Json.Fields :=
  [("host", .string settings.host),
    ("port", Json.ofNat settings.port),
    ("scheme", .string settings.scheme),
    ("timeout", Json.ofNat settings.timeout),
    ("backend", .string settings.backend),
    ("default_key", .string settings.defaultKey),
    ("path_to_key", .string settings.pathToKey),
    ("profile_separator", .string settings.profileSeparator),
    ("order", Json.ofInt settings.order),
    ("kv_version", Json.ofNat settings.kvVersion),
    ("namespace", Json.ofOption settings.namespaceName),
    ("skip_ssl_validation", .bool settings.skipsValidation),
    ("token", Json.ofOption settings.token),
    ("enable_label", .bool settings.labelEnabled),
    ("default_label", .string settings.defaultLabel),
    ("app_role", settings.appRole.toJson),
    ("aws_ec2", settings.awsEc2.toJson),
    ("aws_iam", settings.awsIam.toJson),
    ("azure_msi", settings.azureMsi.toJson),
    ("gcp_gce", settings.gcpGce.toJson),
    ("gcp_iam", settings.gcpIam.toJsonWith credentials),
    ("kubernetes", settings.kubernetes.toJson),
    ("pcf", settings.pcf.toJson),
    ("ssl", tls),
    ("authentication", Json.ofOption (settings.method.map LoginMethod.name))]

/-- The document form, from which the settings can be read again. -/
def toJson (settings : VaultSettings) : Json :=
  Json.ofFields (settings.fieldsWith settings.gcpIam.credentials.toJson settings.tls.toJson)

end VaultSettings

end RemoteConfig
