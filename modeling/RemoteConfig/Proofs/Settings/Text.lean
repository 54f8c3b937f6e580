import RemoteConfig.Client.Loading
import RemoteConfig.Proofs.Settings.TextRecords
import RemoteConfig.Vault.Loading

/-!
Contract: the settings of clients and of repositories of secrets that hold text.

Owns:
- the list of them, with the names that lead to them;
- the settings that are read when only one of them is there.

Does not own: what the text of a variable means.
-/

namespace RemoteConfig

open RemoteConfig.Tree TextSetting

/-! ### The settings of a client -/

namespace DiscoverySettings

def textSettings : List (TextSetting DiscoverySettings) :=
  [{ names := ["service_id"], put text settings := { settings with serviceId := text }
     get settings := some settings.serviceId }]

def textRecord : TextRecord :=
  ⟨_, read? reader, defaults, textSettings⟩

def asPart : RecordPart :=
  ⟨_, _, read? reader, ClientSettings.read? reader, ClientSettings.defaults, "discovery",
    fun found settings => { settings with discovery := found }⟩

end DiscoverySettings

namespace ClientSettings

def ownTextSettings : List (TextSetting ClientSettings) :=
  [{ names := ["name"], put text settings := { settings with name := text }
     get settings := some settings.name },
    { names := ["profile"], put text settings := { settings with profile := text }
      get settings := some settings.profile },
    { names := ["label"], put text settings := { settings with label := some text }
      get settings := settings.label },
    { names := ["username"], put text settings := { settings with username := text }
      get settings := some settings.username },
    { names := ["password"], put text settings := { settings with password := some text }
      get settings := settings.password },
    { names := ["token"], put text settings := { settings with token := some text }
      get settings := settings.token },
    { names := ["media_type"], put text settings := { settings with mediaType := text }
      get settings := some settings.mediaType },
    { names := ["charset"], put text settings := { settings with charset := text }
      get settings := some settings.charset }]

def textRecord : TextRecord :=
  ⟨_, read? reader, defaults, ownTextSettings⟩

/-- The settings of a client that hold text. -/
def textSettings : List (TextSetting ClientSettings) :=
  ownTextSettings ++
    DiscoverySettings.textSettings.map (within "discovery" (by decide) (·.discovery)
      (fun found settings => { settings with discovery := found }) fun _ _ => rfl)

end ClientSettings

/-! ### The settings of a repository of secrets -/

namespace AppRoleSettings

def textSettings : List (TextSetting AppRoleSettings) :=
  [{ names := ["app_role_path"], put text settings := { settings with path := text }
     get settings := some settings.path },
    { names := ["role"], put text settings := { settings with role := text }
      get settings := some settings.role },
    { names := ["role_id"], put text settings := { settings with roleId := some text }
      get settings := settings.roleId },
    { names := ["secret_id"], put text settings := { settings with secretId := some text }
      get settings := settings.secretId }]

def textRecord : TextRecord :=
  ⟨_, read? reader, defaults, textSettings⟩

def asPart : RecordPart :=
  ⟨_, _, read? reader, VaultSettings.read? reader, VaultSettings.defaults, "app_role",
    fun found settings => { settings with appRole := found }⟩

end AppRoleSettings

namespace AwsEc2Settings

def textSettings : List (TextSetting AwsEc2Settings) :=
  [{ names := ["identity_document"]
     put text settings := { settings with identityDocument := text }
     get settings := some settings.identityDocument },
    { names := ["aws_ec2_path"], put text settings := { settings with path := text }
      get settings := some settings.path },
    { names := ["role"], put text settings := { settings with role := text }
      get settings := some settings.role },
    { names := ["nonce"], put text settings := { settings with nonce := some text }
      get settings := settings.nonce }]

def textRecord : TextRecord :=
  ⟨_, read? reader, defaults, textSettings⟩

def asPart : RecordPart :=
  ⟨_, _, read? reader, VaultSettings.read? reader, VaultSettings.defaults, "aws_ec2",
    fun found settings => { settings with awsEc2 := found }⟩

end AwsEc2Settings

namespace AwsIamSettings

def textSettings : List (TextSetting AwsIamSettings) :=
  [{ names := ["aws_path"], put text settings := { settings with path := text }
     get settings := some settings.path },
    { names := ["role"], put text settings := { settings with role := text }
      get settings := some settings.role },
    { names := ["server_name"], put text settings := { settings with serverName := some text }
      get settings := settings.serverName },
    { names := ["endpoint_uri"], put text settings := { settings with endpoint := some text }
      get settings := settings.endpoint }]

def textRecord : TextRecord :=
  ⟨_, read? reader, defaults, textSettings⟩

def asPart : RecordPart :=
  ⟨_, _, read? reader, VaultSettings.read? reader, VaultSettings.defaults, "aws_iam",
    fun found settings => { settings with awsIam := found }⟩

end AwsIamSettings

namespace AzureMsiSettings

def textSettings : List (TextSetting AzureMsiSettings) :=
  [{ names := ["azure_path"], put text settings := { settings with path := text }
     get settings := some settings.path },
    { names := ["role"], put text settings := { settings with role := text }
      get settings := some settings.role },
    { names := ["identity_token_service"]
      put text settings := { settings with tokenService := text }
      get settings := some settings.tokenService },
    { names := ["metadata_service"]
      put text settings := { settings with metadataService := text }
      get settings := some settings.metadataService }]

def textRecord : TextRecord :=
  ⟨_, read? reader, defaults, textSettings⟩

def asPart : RecordPart :=
  ⟨_, _, read? reader, VaultSettings.read? reader, VaultSettings.defaults, "azure_msi",
    fun found settings => { settings with azureMsi := found }⟩

end AzureMsiSettings

namespace GcpGceSettings

def textSettings : List (TextSetting GcpGceSettings) :=
  [{ names := ["gcp_path"], put text settings := { settings with path := text }
     get settings := some settings.path },
    { names := ["role"], put text settings := { settings with role := text }
      get settings := some settings.role },
    { names := ["service_account"], put text settings := { settings with serviceAccount := text }
      get settings := some settings.serviceAccount }]

def textRecord : TextRecord :=
  ⟨_, read? reader, defaults, textSettings⟩

def asPart : RecordPart :=
  ⟨_, _, read? reader, VaultSettings.read? reader, VaultSettings.defaults, "gcp_gce",
    fun found settings => { settings with gcpGce := found }⟩

end GcpGceSettings

namespace GcpKeySource

def textSettings : List (TextSetting GcpKeySource) :=
  [{ names := ["location"], put text settings := { settings with location := some text }
     get settings := settings.location },
    { names := ["encoded_key"], put text settings := { settings with encodedKey := some text }
      get settings := settings.encodedKey }]

def textRecord : TextRecord :=
  ⟨_, read? reader, defaults, textSettings⟩

def asPart : RecordPart :=
  ⟨_, _, read? reader, GcpIamSettings.read? reader, GcpIamSettings.defaults, "credentials",
    fun found settings => { settings with credentials := found }⟩

end GcpKeySource

namespace GcpIamSettings

def ownTextSettings : List (TextSetting GcpIamSettings) :=
  [{ names := ["gcp_path"], put text settings := { settings with path := text }
     get settings := some settings.path },
    { names := ["role"], put text settings := { settings with role := text }
      get settings := some settings.role },
    { names := ["project_id"], put text settings := { settings with projectId := text }
      get settings := some settings.projectId },
    { names := ["service_account_id"]
      put text settings := { settings with serviceAccountId := text }
      get settings := some settings.serviceAccountId }]

def textRecord : TextRecord :=
  ⟨_, read? reader, defaults, ownTextSettings⟩

def textSettings : List (TextSetting GcpIamSettings) :=
  ownTextSettings ++
    GcpKeySource.textSettings.map (within "credentials" (by decide) (·.credentials)
      (fun found settings => { settings with credentials := found }) fun _ _ => rfl)

def asPart : RecordPart :=
  ⟨_, _, read? reader, VaultSettings.read? reader, VaultSettings.defaults, "gcp_iam",
    fun found settings => { settings with gcpIam := found }⟩

end GcpIamSettings

namespace KubernetesSettings

def textSettings : List (TextSetting KubernetesSettings) :=
  [{ names := ["kubernetes_path"], put text settings := { settings with path := text }
     get settings := some settings.path },
    { names := ["role"], put text settings := { settings with role := text }
      get settings := some settings.role },
    { names := ["service_account_token_file"]
      put text settings := { settings with tokenFile := text }
      get settings := some settings.tokenFile }]

def textRecord : TextRecord :=
  ⟨_, read? reader, defaults, textSettings⟩

def asPart : RecordPart :=
  ⟨_, _, read? reader, VaultSettings.read? reader, VaultSettings.defaults, "kubernetes",
    fun found settings => { settings with kubernetes := found }⟩

end KubernetesSettings

namespace PcfSettings

def textSettings : List (TextSetting PcfSettings) :=
  [{ names := ["pcf_path"], put text settings := { settings with path := text }
     get settings := some settings.path },
    { names := ["role"], put text settings := { settings with role := text }
      get settings := some settings.role },
    { names := ["instance_certificate"]
      put text settings := { settings with certificate := some text }
      get settings := settings.certificate },
    { names := ["instance_key"], put text settings := { settings with key := some text }
      get settings := settings.key }]

def textRecord : TextRecord :=
  ⟨_, read? reader, defaults, textSettings⟩

def asPart : RecordPart :=
  ⟨_, _, read? reader, VaultSettings.read? reader, VaultSettings.defaults, "pcf",
    fun found settings => { settings with pcf := found }⟩

end PcfSettings

namespace TlsSettings

def textSettings : List (TextSetting TlsSettings) :=
  [{ names := ["key_store"], put text settings := { settings with keyStore := some text }
     get settings := settings.keyStore },
    { names := ["key_store_password"]
      put text settings := { settings with keyStorePassword := some text }
      get settings := settings.keyStorePassword },
    { names := ["trust_store"], put text settings := { settings with trustStore := some text }
      get settings := settings.trustStore },
    { names := ["trust_store_password"]
      put text settings := { settings with trustStorePassword := some text }
      get settings := settings.trustStorePassword },
    { names := ["cert_auth_path"], put text settings := { settings with path := text }
      get settings := some settings.path }]

def textRecord : TextRecord :=
  ⟨_, read? reader, defaults, textSettings⟩

def asPart : RecordPart :=
  ⟨_, _, read? reader, VaultSettings.read? reader, VaultSettings.defaults, "ssl",
    fun found settings => { settings with tls := found }⟩

end TlsSettings

namespace VaultSettings

def ownTextSettings : List (TextSetting VaultSettings) :=
  [{ names := ["host"], put text settings := { settings with host := text }
     get settings := some settings.host },
    { names := ["scheme"], put text settings := { settings with scheme := text }
      get settings := some settings.scheme },
    { names := ["backend"], put text settings := { settings with backend := text }
      get settings := some settings.backend },
    { names := ["default_key"], put text settings := { settings with defaultKey := text }
      get settings := some settings.defaultKey },
    { names := ["path_to_key"], put text settings := { settings with pathToKey := text }
      get settings := some settings.pathToKey },
    { names := ["profile_separator"]
      put text settings := { settings with profileSeparator := text }
      get settings := some settings.profileSeparator },
    { names := ["namespace"], put text settings := { settings with namespaceName := some text }
      get settings := settings.namespaceName },
    { names := ["token"], put text settings := { settings with token := some text }
      get settings := settings.token },
    { names := ["default_label"], put text settings := { settings with defaultLabel := text }
      get settings := some settings.defaultLabel }]

def textRecord : TextRecord :=
  ⟨_, read? reader, defaults, ownTextSettings⟩

/-- The settings of a repository of secrets that hold text. -/
def textSettings : List (TextSetting VaultSettings) :=
  ownTextSettings
    ++ AppRoleSettings.textSettings.map (within "app_role" (by decide) (·.appRole)
      (fun found settings => { settings with appRole := found }) fun _ _ => rfl)
    ++ AwsEc2Settings.textSettings.map (within "aws_ec2" (by decide) (·.awsEc2)
      (fun found settings => { settings with awsEc2 := found }) fun _ _ => rfl)
    ++ AwsIamSettings.textSettings.map (within "aws_iam" (by decide) (·.awsIam)
      (fun found settings => { settings with awsIam := found }) fun _ _ => rfl)
    ++ AzureMsiSettings.textSettings.map (within "azure_msi" (by decide) (·.azureMsi)
      (fun found settings => { settings with azureMsi := found }) fun _ _ => rfl)
    ++ GcpGceSettings.textSettings.map (within "gcp_gce" (by decide) (·.gcpGce)
      (fun found settings => { settings with gcpGce := found }) fun _ _ => rfl)
    ++ GcpIamSettings.textSettings.map (within "gcp_iam" (by decide) (·.gcpIam)
      (fun found settings => { settings with gcpIam := found }) fun _ _ => rfl)
    ++ KubernetesSettings.textSettings.map (within "kubernetes" (by decide) (·.kubernetes)
      (fun found settings => { settings with kubernetes := found }) fun _ _ => rfl)
    ++ PcfSettings.textSettings.map (within "pcf" (by decide) (·.pcf)
      (fun found settings => { settings with pcf := found }) fun _ _ => rfl)
    ++ TlsSettings.textSettings.map (within "ssl" (by decide) (·.tls)
      (fun found settings => { settings with tls := found }) fun _ _ => rfl)

end VaultSettings

/-! ### Reading one of them -/

def textRecords : List TextRecord :=
  [DiscoverySettings.textRecord, ClientSettings.textRecord, AppRoleSettings.textRecord,
    AwsEc2Settings.textRecord, AwsIamSettings.textRecord, AzureMsiSettings.textRecord,
    GcpGceSettings.textRecord, GcpKeySource.textRecord, GcpIamSettings.textRecord,
    KubernetesSettings.textRecord, PcfSettings.textRecord, TlsSettings.textRecord,
    VaultSettings.textRecord]

/-- Every record is read from the value of one of its settings. -/
theorem isRead_textRecords : ∀ record ∈ textRecords, record.IsRead := by
  simp only [textRecords, List.forall_mem_cons, TextRecord.IsRead, DiscoverySettings.textRecord,
    ClientSettings.textRecord, AppRoleSettings.textRecord, AwsEc2Settings.textRecord,
    AwsIamSettings.textRecord, AzureMsiSettings.textRecord, GcpGceSettings.textRecord,
    GcpKeySource.textRecord, GcpIamSettings.textRecord, KubernetesSettings.textRecord,
    PcfSettings.textRecord, TlsSettings.textRecord, VaultSettings.textRecord,
    DiscoverySettings.textSettings, ClientSettings.ownTextSettings, AppRoleSettings.textSettings,
    AwsEc2Settings.textSettings, AwsIamSettings.textSettings, AzureMsiSettings.textSettings,
    GcpGceSettings.textSettings, GcpKeySource.textSettings, GcpIamSettings.ownTextSettings,
    KubernetesSettings.textSettings, PcfSettings.textSettings, TlsSettings.textSettings,
    VaultSettings.ownTextSettings, areRead_cons, areRead_nil, List.not_mem_nil,
    false_imp_iff, implies_true, and_true]
  and_intros
  all_goals
    intro value text scalar
    have asText := readerString?_scalar scalar
    have asOptional := optionalText_scalar scalar
    simp only [nested, DiscoverySettings.read?, ClientSettings.read?, AppRoleSettings.read?,
      AwsEc2Settings.read?, AwsIamSettings.read?, AzureMsiSettings.read?, GcpGceSettings.read?,
      GcpKeySource.read?, GcpIamSettings.read?, KubernetesSettings.read?, PcfSettings.read?,
      TlsSettings.read?, VaultSettings.read?, ↓bind_record, ↓bind_otherField, ↓bind_ownField asText,
      ↓bind_ownField asOptional, ne_eq, String.reduceEq, not_false_eq_true]
    rfl

def textParts : List RecordPart :=
  [DiscoverySettings.asPart, GcpKeySource.asPart, AppRoleSettings.asPart, AwsEc2Settings.asPart,
    AwsIamSettings.asPart, AzureMsiSettings.asPart, GcpGceSettings.asPart, GcpIamSettings.asPart,
    KubernetesSettings.asPart, PcfSettings.asPart, TlsSettings.asPart]

/-- Every record is read from one of its parts. -/
theorem isRead_textParts : ∀ part ∈ textParts, part.IsRead := by
  simp only [textParts, List.forall_mem_cons, RecordPart.IsRead, DiscoverySettings.asPart,
    GcpKeySource.asPart, AppRoleSettings.asPart, AwsEc2Settings.asPart, AwsIamSettings.asPart,
    AzureMsiSettings.asPart, GcpGceSettings.asPart, GcpIamSettings.asPart,
    KubernetesSettings.asPart, PcfSettings.asPart, TlsSettings.asPart, List.not_mem_nil,
    false_imp_iff, implies_true, and_true]
  and_intros
  all_goals
    intro value found inside
    simp only [ClientSettings.read?, GcpIamSettings.read?, VaultSettings.read?, ↓bind_record,
      ↓bind_otherField, ↓bind_ownField inside, ne_eq, String.reduceEq, not_false_eq_true]
    rfl

/-! ### Settings and those of their parts -/

theorem ClientSettings.areRead_textSettings :
    AreRead (read? reader) defaults textSettings := by
  have own := isRead_textRecords textRecord (by simp [textRecords])
  have discovery := isRead_textRecords DiscoverySettings.textRecord (by simp [textRecords])
  exact own.append
    (discovery.within rfl (isRead_textParts DiscoverySettings.asPart (by simp [textParts])))

theorem GcpIamSettings.areRead_textSettings :
    AreRead (read? reader) defaults textSettings := by
  have own := isRead_textRecords textRecord (by simp [textRecords])
  have keySource := isRead_textRecords GcpKeySource.textRecord (by simp [textRecords])
  exact own.append
    (keySource.within rfl (isRead_textParts GcpKeySource.asPart (by simp [textParts])))

theorem VaultSettings.areRead_textSettings :
    AreRead (read? reader) defaults textSettings := by
  have own := isRead_textRecords textRecord (by simp [textRecords])
  have appRole := isRead_textRecords AppRoleSettings.textRecord (by simp [textRecords])
  have awsEc2 := isRead_textRecords AwsEc2Settings.textRecord (by simp [textRecords])
  have awsIam := isRead_textRecords AwsIamSettings.textRecord (by simp [textRecords])
  have azureMsi := isRead_textRecords AzureMsiSettings.textRecord (by simp [textRecords])
  have gcpGce := isRead_textRecords GcpGceSettings.textRecord (by simp [textRecords])
  have kubernetes := isRead_textRecords KubernetesSettings.textRecord (by simp [textRecords])
  have pcf := isRead_textRecords PcfSettings.textRecord (by simp [textRecords])
  have tls := isRead_textRecords TlsSettings.textRecord (by simp [textRecords])
  have parts := isRead_textParts
  simp only [textParts, List.forall_mem_cons] at parts
  obtain ⟨-, -, inAppRole, inAwsEc2, inAwsIam, inAzureMsi, inGcpGce, inGcpIam, inKubernetes, inPcf,
    inTls, -⟩ := parts
  exact (((((((((own.append
    (appRole.within rfl inAppRole)).append
    (awsEc2.within rfl inAwsEc2)).append
    (awsIam.within rfl inAwsIam)).append
    (azureMsi.within rfl inAzureMsi)).append
    (gcpGce.within rfl inGcpGce)).append
    (GcpIamSettings.areRead_textSettings.within rfl inGcpIam)).append
    (kubernetes.within rfl inKubernetes)).append
    (pcf.within rfl inPcf)).append
    (tls.within rfl inTls))

end RemoteConfig
