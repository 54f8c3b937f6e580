import RemoteConfig.Vault.Method

/-!
Contract: the settings of a repository of Vault secrets.

Owns:
- the settings of the repository and of each way to log in, with their defaults;
- reading them from untyped values, strictly or leniently.

Does not own: where the untyped values come from, and how the settings are shown.
-/

namespace RemoteConfig

/-- A login with a role id and a secret id. -/
structure AppRoleSettings where
  path : String
  role : String
  roleId : Option String
  secretId : Option String
deriving DecidableEq, Repr

/-- A login with the identity document of an EC2 instance. -/
structure AwsEc2Settings where
  identityDocument : String
  path : String
  role : String
  nonce : Option String
deriving DecidableEq, Repr

/-- A login with a signed request to the token service of AWS. -/
structure AwsIamSettings where
  path : String
  role : String
  serverName : Option String
  endpoint : Option String
deriving DecidableEq, Repr

/-- A login with a managed identity of Azure. -/
structure AzureMsiSettings where
  path : String
  role : String
  tokenService : String
  metadataService : String
deriving DecidableEq, Repr

/-- A login with the identity of a Compute Engine instance. -/
structure GcpGceSettings where
  path : String
  role : String
  serviceAccount : String
deriving DecidableEq, Repr

/-- The key of a service account: a file, or its content in Base64. -/
structure GcpKeySource where
  location : Option String
  encodedKey : Option String
deriving DecidableEq, Repr

/-- A login with a token that the service for credentials of Google signs. The validity is in
seconds. -/
structure GcpIamSettings where
  credentials : GcpKeySource
  path : String
  role : String
  projectId : String
  serviceAccountId : String
  validity : Nat
deriving DecidableEq, Repr

/-- A login with the token of a Kubernetes service account. -/
structure KubernetesSettings where
  path : String
  role : String
  tokenFile : String
deriving DecidableEq, Repr

/-- A login with the certificate of a Cloud Foundry instance. -/
structure PcfSettings where
  path : String
  role : String
  certificate : Option String
  key : Option String
deriving DecidableEq, Repr

/-- The stores of certificates for connections, and the login with a client certificate. -/
structure TlsSettings where
  keyStore : Option String
  keyStorePassword : Option String
  trustStore : Option String
  trustStorePassword : Option String
  path : String
deriving DecidableEq, Repr

/-- The settings of a repository of Vault secrets. The timeout is in seconds. -/
structure VaultSettings where
  host : String
  port : Nat
  scheme : String
  timeout : Nat
  backend : String
  defaultKey : String
  pathToKey : String
  profileSeparator : String
  order : Int
  kvVersion : Nat
  namespaceName : Option String
  skipsValidation : Bool
  token : Option String
  labelEnabled : Bool
  defaultLabel : String
  appRole : AppRoleSettings
  awsEc2 : AwsEc2Settings
  awsIam : AwsIamSettings
  azureMsi : AzureMsiSettings
  gcpGce : GcpGceSettings
  gcpIam : GcpIamSettings
  kubernetes : KubernetesSettings
  pcf : PcfSettings
  tls : TlsSettings
  method : Option LoginMethod
deriving DecidableEq, Repr

variable {V : Type}

namespace AppRoleSettings

/-- Without role and secret. -/
def defaults : AppRoleSettings := ⟨"approle", "", none, none⟩

/-- Reads settings; what is absent has its default. -/
def read? (reader : ValueReader V) (value : V) : Option AppRoleSettings := do
  let record ← reader.record? 4 value
  let optionalText := reader.optional? reader.string?
  let path ← record.fieldOr 0 "app_role_path" defaults.path reader.string?
  let role ← record.fieldOr 1 "role" defaults.role reader.string?
  let roleId ← record.fieldOr 2 "role_id" defaults.roleId optionalText
  let secretId ← record.fieldOr 3 "secret_id" defaults.secretId optionalText
  pure { path, role, roleId, secretId }

end AppRoleSettings

namespace AwsEc2Settings

/-- With the identity document of the instance itself. -/
def defaults : AwsEc2Settings :=
  ⟨"http://169.254.169.254/latest/dynamic/instance-identity/pkcs7", "aws-ec2", "", none⟩

/-- Reads settings; what is absent has its default. -/
def read? (reader : ValueReader V) (value : V) : Option AwsEc2Settings := do
  let record ← reader.record? 4 value
  let identityDocument ←
    record.fieldOr 0 "identity_document" defaults.identityDocument reader.string?
  let path ← record.fieldOr 1 "aws_ec2_path" defaults.path reader.string?
  let role ← record.fieldOr 2 "role" defaults.role reader.string?
  let nonce ← record.fieldOr 3 "nonce" defaults.nonce (reader.optional? reader.string?)
  pure { identityDocument, path, role, nonce }

end AwsEc2Settings

namespace AwsIamSettings

/-- With the global token service. -/
def defaults : AwsIamSettings := ⟨"aws", "", none, none⟩

/-- Reads settings; what is absent has its default. -/
def read? (reader : ValueReader V) (value : V) : Option AwsIamSettings := do
  let record ← reader.record? 4 value
  let optionalText := reader.optional? reader.string?
  let path ← record.fieldOr 0 "aws_path" defaults.path reader.string?
  let role ← record.fieldOr 1 "role" defaults.role reader.string?
  let serverName ← record.fieldOr 2 "server_name" defaults.serverName optionalText
  let endpoint ← record.fieldOr 3 "endpoint_uri" defaults.endpoint optionalText
  pure { path, role, serverName, endpoint }

end AwsIamSettings

namespace AzureMsiSettings

/-- With the services of the instance itself. -/
def defaults : AzureMsiSettings := ⟨"azure", "", "", ""⟩

/-- Reads settings; what is absent has its default. -/
def read? (reader : ValueReader V) (value : V) : Option AzureMsiSettings := do
  let record ← reader.record? 4 value
  let path ← record.fieldOr 0 "azure_path" defaults.path reader.string?
  let role ← record.fieldOr 1 "role" defaults.role reader.string?
  let tokenService ←
    record.fieldOr 2 "identity_token_service" defaults.tokenService reader.string?
  let metadataService ←
    record.fieldOr 3 "metadata_service" defaults.metadataService reader.string?
  pure { path, role, tokenService, metadataService }

end AzureMsiSettings

namespace GcpGceSettings

/-- With the service account of the instance itself. -/
def defaults : GcpGceSettings := ⟨"gcp", "", ""⟩

/-- Reads settings; what is absent has its default. -/
def read? (reader : ValueReader V) (value : V) : Option GcpGceSettings := do
  let record ← reader.record? 3 value
  let path ← record.fieldOr 0 "gcp_path" defaults.path reader.string?
  let role ← record.fieldOr 1 "role" defaults.role reader.string?
  let serviceAccount ← record.fieldOr 2 "service_account" defaults.serviceAccount reader.string?
  pure { path, role, serviceAccount }

end GcpGceSettings

namespace GcpKeySource

/-- Without a key. -/
def defaults : GcpKeySource := ⟨none, none⟩

/-- Reads settings; what is absent has its default. -/
def read? (reader : ValueReader V) (value : V) : Option GcpKeySource := do
  let record ← reader.record? 2 value
  let optionalText := reader.optional? reader.string?
  let location ← record.fieldOr 0 "location" defaults.location optionalText
  let encodedKey ← record.fieldOr 1 "encoded_key" defaults.encodedKey optionalText
  pure { location, encodedKey }

end GcpKeySource

namespace GcpIamSettings

/-- With the service account of the instance itself, and a validity of a quarter of an hour. -/
def defaults : GcpIamSettings := ⟨GcpKeySource.defaults, "gcp", "", "", "", 900⟩

/-- Reads settings; what is absent has its default. -/
def read? (reader : ValueReader V) (value : V) : Option GcpIamSettings := do
  let record ← reader.record? 6 value
  let credentials ←
    record.fieldOr 0 "credentials" defaults.credentials (GcpKeySource.read? reader)
  let path ← record.fieldOr 1 "gcp_path" defaults.path reader.string?
  let role ← record.fieldOr 2 "role" defaults.role reader.string?
  let projectId ← record.fieldOr 3 "project_id" defaults.projectId reader.string?
  let serviceAccountId ←
    record.fieldOr 4 "service_account_id" defaults.serviceAccountId reader.string?
  let validity ← record.fieldOr 5 "jwt_validity" defaults.validity (reader.natural? (Number.twoTo 64))
  pure { credentials, path, role, projectId, serviceAccountId, validity }

end GcpIamSettings

namespace KubernetesSettings

/-- With the token that is mounted into containers. -/
def defaults : KubernetesSettings :=
  ⟨"kubernetes", "", "/var/run/secrets/kubernetes.io/serviceaccount/token"⟩

/-- Reads settings; what is absent has its default. -/
def read? (reader : ValueReader V) (value : V) : Option KubernetesSettings := do
  let record ← reader.record? 3 value
  let path ← record.fieldOr 0 "kubernetes_path" defaults.path reader.string?
  let role ← record.fieldOr 1 "role" defaults.role reader.string?
  let tokenFile ←
    record.fieldOr 2 "service_account_token_file" defaults.tokenFile reader.string?
  pure { path, role, tokenFile }

end KubernetesSettings

namespace PcfSettings

/-- With the files that environment variables name. -/
def defaults : PcfSettings := ⟨"pcf", "", none, none⟩

/-- Reads settings; what is absent has its default. -/
def read? (reader : ValueReader V) (value : V) : Option PcfSettings := do
  let record ← reader.record? 4 value
  let optionalText := reader.optional? reader.string?
  let path ← record.fieldOr 0 "pcf_path" defaults.path reader.string?
  let role ← record.fieldOr 1 "role" defaults.role reader.string?
  let certificate ← record.fieldOr 2 "instance_certificate" defaults.certificate optionalText
  let key ← record.fieldOr 3 "instance_key" defaults.key optionalText
  pure { path, role, certificate, key }

end PcfSettings

namespace TlsSettings

/-- Without any store. -/
def defaults : TlsSettings := ⟨none, none, none, none, "cert"⟩

/-- Reads settings; what is absent has its default. -/
def read? (reader : ValueReader V) (value : V) : Option TlsSettings := do
  let record ← reader.record? 5 value
  let optionalText := reader.optional? reader.string?
  let keyStore ← record.fieldOr 0 "key_store" defaults.keyStore optionalText
  let keyStorePassword ←
    record.fieldOr 1 "key_store_password" defaults.keyStorePassword optionalText
  let trustStore ← record.fieldOr 2 "trust_store" defaults.trustStore optionalText
  let trustStorePassword ←
    record.fieldOr 3 "trust_store_password" defaults.trustStorePassword optionalText
  let path ← record.fieldOr 4 "cert_auth_path" defaults.path reader.string?
  pure { keyStore, keyStorePassword, trustStore, trustStorePassword, path }

end TlsSettings

namespace VaultSettings

/-- A Vault on the same host, with its usual backend for secrets. -/
def defaults : VaultSettings where
  host := "127.0.0.1"
  port := 8200
  scheme := "http"
  timeout := 5
  backend := "secret"
  defaultKey := "application"
  pathToKey := ""
  profileSeparator := ","
  order := Number.greatest32
  kvVersion := 1
  namespaceName := none
  skipsValidation := false
  token := none
  labelEnabled := false
  defaultLabel := "main"
  appRole := AppRoleSettings.defaults
  awsEc2 := AwsEc2Settings.defaults
  awsIam := AwsIamSettings.defaults
  azureMsi := AzureMsiSettings.defaults
  gcpGce := GcpGceSettings.defaults
  gcpIam := GcpIamSettings.defaults
  kubernetes := KubernetesSettings.defaults
  pcf := PcfSettings.defaults
  tls := TlsSettings.defaults
  method := none

/-- Reads settings; what is absent has its default, and unknown fields are ignored. -/
def read? (reader : ValueReader V) (value : V) : Option VaultSettings := do
  let record ← reader.record? 25 value
  let optionalText := reader.optional? reader.string?
  let host ← record.fieldOr 0 "host" defaults.host reader.string?
  let port ← record.fieldOr 1 "port" defaults.port (reader.natural? (Number.twoTo 16))
  let scheme ← record.fieldOr 2 "scheme" defaults.scheme reader.string?
  let timeout ← record.fieldOr 3 "timeout" defaults.timeout (reader.natural? (Number.twoTo 64))
  let backend ← record.fieldOr 4 "backend" defaults.backend reader.string?
  let defaultKey ← record.fieldOr 5 "default_key" defaults.defaultKey reader.string?
  let pathToKey ← record.fieldOr 6 "path_to_key" defaults.pathToKey reader.string?
  let profileSeparator ←
    record.fieldOr 7 "profile_separator" defaults.profileSeparator reader.string?
  let order ←
    record.fieldOr 8 "order" defaults.order (reader.integer? Number.least32 Number.greatest32)
  let kvVersion ← record.fieldOr 9 "kv_version" defaults.kvVersion (reader.natural? (Number.twoTo 8))
  let namespaceName ← record.fieldOr 10 "namespace" defaults.namespaceName optionalText
  let skipsValidation ←
    record.fieldOr 11 "skip_ssl_validation" defaults.skipsValidation reader.bool?
  let token ← record.fieldOr 12 "token" defaults.token optionalText
  let labelEnabled ← record.fieldOr 13 "enable_label" defaults.labelEnabled reader.bool?
  let defaultLabel ← record.fieldOr 14 "default_label" defaults.defaultLabel reader.string?
  let appRole ← record.fieldOr 15 "app_role" defaults.appRole (AppRoleSettings.read? reader)
  let awsEc2 ← record.fieldOr 16 "aws_ec2" defaults.awsEc2 (AwsEc2Settings.read? reader)
  let awsIam ← record.fieldOr 17 "aws_iam" defaults.awsIam (AwsIamSettings.read? reader)
  let azureMsi ← record.fieldOr 18 "azure_msi" defaults.azureMsi (AzureMsiSettings.read? reader)
  let gcpGce ← record.fieldOr 19 "gcp_gce" defaults.gcpGce (GcpGceSettings.read? reader)
  let gcpIam ← record.fieldOr 20 "gcp_iam" defaults.gcpIam (GcpIamSettings.read? reader)
  let kubernetes ←
    record.fieldOr 21 "kubernetes" defaults.kubernetes (KubernetesSettings.read? reader)
  let pcf ← record.fieldOr 22 "pcf" defaults.pcf (PcfSettings.read? reader)
  let tls ← record.fieldOr 23 "ssl" defaults.tls (TlsSettings.read? reader)
  let method ←
    record.fieldOr 24 "authentication" defaults.method (reader.optional? (LoginMethod.read? reader))
  pure
    { host, port, scheme, timeout, backend, defaultKey, pathToKey, profileSeparator, order,
      kvVersion, namespaceName, skipsValidation, token, labelEnabled, defaultLabel, appRole,
      awsEc2, awsIam, azureMsi, gcpGce, gcpIam, kubernetes, pcf, tls, method }

end VaultSettings

end RemoteConfig
