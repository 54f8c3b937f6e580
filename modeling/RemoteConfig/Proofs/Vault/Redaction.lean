import RemoteConfig.Vault.Diagnostics
import RemoteConfig.Proofs.Text.DiagnosticForms

/-!
Contract: what the diagnostic text of the settings of Vault tells about the secrets in them.

Owns:
- settings that agree in everything but the texts of their secrets;
- `describe_eq_iff`: the texts of two such settings agree exactly when token and secret id do, so
  that the key of a service account and the passwords of the stores are withheld and these two are
  shown.

Does not own: the diagnostic texts of other settings.
-/

namespace RemoteConfig

open Vault

/-- Of a secret it is kept only that there is one. -/
def withheld (secret : Option String) : Option String :=
  secret.map fun _ => "<redacted>"

theorem Vault.Shown.secret_withheld (secret : Option String) :
    Shown.secret (withheld secret) = Shown.secret secret := by
  unfold Shown.secret withheld
  rw [Option.map_map]
  rfl

namespace VaultSettings

/-- The settings without the texts of the secrets in them. -/
def withoutSecrets (settings : VaultSettings) : VaultSettings :=
  { settings with
    token := withheld settings.token
    appRole := { settings.appRole with secretId := withheld settings.appRole.secretId }
    gcpIam :=
      { settings.gcpIam with
        credentials :=
          { settings.gcpIam.credentials with
            encodedKey := withheld settings.gcpIam.credentials.encodedKey } }
    tls :=
      { settings.tls with
        keyStorePassword := withheld settings.tls.keyStorePassword
        trustStorePassword := withheld settings.tls.trustStorePassword } }

/-- The settings with another token and another secret id. -/
def withTokens (settings : VaultSettings) (token secretId : Option String) : VaultSettings :=
  { settings with token, appRole := { settings.appRole with secretId } }

/-- The text does not tell more of the secrets than token and secret id. -/
theorem describe_withTokens (settings : VaultSettings) :
    (settings.withoutSecrets.withTokens settings.token settings.appRole.secretId).describe =
      settings.describe := by
  simp only [describe, withTokens, withoutSecrets, GcpIamSettings.describe, GcpKeySource.describe,
    TlsSettings.describe, Shown.secret_withheld]

end VaultSettings

theorem Vault.Shown.optional_isPrefixFree :
    IsPrefixFree fun value => (Shown.optional value).toList :=
  Diagnostic.option_isPrefixFree Diagnostic.quoted_isPrefixFree

theorem AppRoleSettings.describe_isPrefixFree (settings : AppRoleSettings) :
    IsPrefixFree fun secretId => ({ settings with secretId }.describe).toList :=
  Diagnostic.record_isPrefixFree Shown.optional_isPrefixFree "AppRoleProperties"
    [("app_role_path", Shown.text settings.path), ("role", Shown.text settings.role),
      ("role_id", Shown.optional settings.roleId)] [] "secret_id"

namespace VaultSettings

theorem describe_tokens_isPrefixFree (settings : VaultSettings) :
    IsPrefixFree fun shown : Option String × Option String =>
      (settings.withTokens shown.1 shown.2).describe.toList :=
  Diagnostic.record_isPrefixFree_pair Shown.optional_isPrefixFree
    settings.appRole.describe_isPrefixFree "VaultEnvironmentProperties"
    [("host", Shown.text settings.host), ("port", toString settings.port),
      ("scheme", Shown.text settings.scheme), ("timeout", toString settings.timeout),
      ("backend", Shown.text settings.backend), ("default_key", Shown.text settings.defaultKey),
      ("path_to_key", Shown.text settings.pathToKey),
      ("profile_separator", Shown.text settings.profileSeparator),
      ("order", toString settings.order), ("kv_version", toString settings.kvVersion),
      ("namespace", Shown.optional settings.namespaceName),
      ("skip_ssl_validation", Shown.flag settings.skipsValidation)]
    [("enable_label", Shown.flag settings.labelEnabled),
      ("default_label", Shown.text settings.defaultLabel)]
    [("aws_ec2", settings.awsEc2.describe), ("aws_iam", settings.awsIam.describe),
      ("azure_msi", settings.azureMsi.describe), ("gcp_gce", settings.gcpGce.describe),
      ("gcp_iam", settings.gcpIam.describe), ("kubernetes", settings.kubernetes.describe),
      ("pcf", settings.pcf.describe), ("ssl", settings.tls.describe),
      ("authentication", Diagnostic.option LoginMethod.diagnosticName settings.method)]
    "token" "app_role"

/-- Of settings whose secrets differ in nothing but their texts, the diagnostic text tells token and
secret id apart and no other secret. -/
theorem describe_eq_iff {first second : VaultSettings}
    (same : first.withoutSecrets = second.withoutSecrets) :
    first.describe = second.describe ↔
      first.token = second.token ∧ first.appRole.secretId = second.appRole.secretId := by
  rw [← describe_withTokens first, ← describe_withTokens second, same]
  constructor
  · intro texts
    have tokens : (first.token, first.appRole.secretId) =
        (second.token, second.appRole.secretId) :=
      (describe_tokens_isPrefixFree second.withoutSecrets).injective
        (congrArg String.toList texts)
    exact Prod.ext_iff.mp tokens
  · rintro ⟨token, secretId⟩
    rw [token, secretId]

/-- Settings with all five secrets. -/
def withAllSecrets (token secretId encodedKey keyStorePassword trustStorePassword : String) :
    VaultSettings :=
  { defaults with
    token := some token
    appRole := { AppRoleSettings.defaults with secretId := some secretId }
    gcpIam := { GcpIamSettings.defaults with credentials := ⟨none, some encodedKey⟩ }
    tls :=
      { TlsSettings.defaults with
        keyStorePassword := some keyStorePassword
        trustStorePassword := some trustStorePassword } }

/-- Another key and other passwords are not told apart, another token is. -/
theorem describe_eq_iff_allSecrets :
    let settings := withAllSecrets "s.1" "id" "a2V5" "pw" "pw"
    settings.describe = (withAllSecrets "s.1" "id" "b3RoZXI=" "" "\"pw\"").describe ∧
      settings.describe ≠ (withAllSecrets "s.2" "id" "a2V5" "pw" "pw").describe := by
  intro settings
  have withoutTexts : ∀ token secretId encodedKey keyStorePassword trustStorePassword,
      settings.withoutSecrets = (withAllSecrets token secretId encodedKey keyStorePassword
        trustStorePassword).withoutSecrets := fun _ _ _ _ _ => rfl
  constructor
  · exact (describe_eq_iff (withoutTexts ..)).mpr ⟨rfl, rfl⟩
  · intro texts
    have tokens := ((describe_eq_iff (withoutTexts ..)).mp texts).1
    exact absurd tokens (by decide)

/-- Not every two settings whose secrets differ in nothing but their texts are shown alike. -/
theorem describe_showsToken :
    ¬ ∀ first second : VaultSettings, first.withoutSecrets = second.withoutSecrets →
      first.describe = second.describe := by
  intro alike
  have texts :=
    alike { defaults with token := some "s.1" } { defaults with token := some "s.2" } rfl
  revert texts
  decide +kernel

end VaultSettings

end RemoteConfig
