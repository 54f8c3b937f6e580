import RemoteConfig.Proofs.Outcome
import RemoteConfig.Proofs.Settings.Text

/-!
Contract: what the settings of one variable are, when a client or a repository of secrets loads
them without a file.

Owns:
- the headers of a client, as settings that hold text;
- the text that a setting has after loading, and when it is the text of the variable.

Does not own: variables that set something that is not text.
-/

namespace RemoteConfig

open RemoteConfig.Tree

namespace TextSetting

variable {S : Type}

/-- When the variable of a setting is given, among variables that set nothing, loading succeeds. The
setting has what remains of the text, and everything else its default. The text itself is there
exactly when it is of the kind that reading it as a value preserves. -/
def IsGiven (load : Variables → Except ConfigError S) (defaults : S) (start : String)
    (setting : TextSetting S) : Prop :=
  ∀ spelled text before after, Variables.Spells start setting.names spelled →
    Variables.AreForeign start (before ++ after) →
    ∃ loaded, load (before ++ (spelled, text) :: after) = .ok loaded ∧
      loaded = setting.put (Variables.kept text) defaults ∧
      (setting.get loaded = some text ↔ Variables.KeepsText text)

/-- A setting that is read from the tree of its value is given by its variable, unless its key is one
of the lists. -/
theorem AreRead.isGiven {read : Tree → Option S} {defaults : S} {settings : List (TextSetting S)}
    (areRead : AreRead read defaults settings) {load : Variables → Except ConfigError S}
    {start : String} {listKeys : List String}
    (loads : ∀ exported loaded,
      read (Variables.apply start listKeys exported Tree.empty) = some loaded →
        load exported = .ok loaded)
    {setting : TextSetting S} (member : setting ∈ settings)
    (single : listKeys.contains (Text.join "." setting.names) = false) :
    setting.IsGiven load defaults start := by
  intro spelled text before after spells foreign
  have tree := Variables.apply_eq_nested setting.nonempty setting.steps spells single text foreign
  have scalar := Variables.string?_meaning single text
  refine ⟨_, loads _ _ ?_, rfl, ?_⟩
  · rw [tree]
    exact areRead setting member _ _ scalar
  · rw [setting.get_put, Option.some.injEq]
    exact Variables.kept_eq_iff text

end TextSetting

namespace ClientSettings

/-- The header with a name, as the only header. -/
def headerSetting (name : String) (step : Variables.IsStepName name) :
    TextSetting ClientSettings where
  names := ["headers", name]
  put text settings := { settings with headers := [(name, text)] }
  get settings := settings.headers.lookup name
  get_put := by simp
  nonempty := by simp
  steps := by
    intro other member
    simp only [List.mem_cons, List.not_mem_nil, or_false] at member
    rcases member with rfl | rfl
    · decide
    · exact step

theorem areRead_headerSetting (name : String) (step : Variables.IsStepName name) :
    TextSetting.AreRead (read? reader) defaults [headerSetting name step] := by
  intro setting member value text scalar
  rw [List.mem_singleton] at member
  subst member
  have asHeaders : reader.map? reader.string? (.table [(name, value)]) = some [(name, text)] := by
    have asText := readerString?_scalar scalar
    have entries : reader.entries? (.table [(name, value)]) = some [(name, value)] := rfl
    simp [ValueReader.map?, entries, asText, Fields.ofList, Fields.insert]
  rw [read?]
  dsimp only [headerSetting, nested]
  rw [bind_record]
  simp only [↓bind_otherField, ↓bind_ownField asHeaders, ne_eq, String.reduceEq, not_false_eq_true]
  rfl

theorem loadWith_of_read {files : FileSystem} {start : String} {exported : Variables}
    {loaded : ClientSettings}
    (isRead : read? reader (Variables.apply start ["uri"] exported Tree.empty) = some loaded) :
    loadWith files none start exported = .ok loaded := by
  simp [loadWith, load?, isRead]

theorem textSettings_areSingle {setting : TextSetting ClientSettings}
    (member : setting ∈ textSettings) :
    ["uri"].contains (Text.join "." setting.names) = false := by
  revert setting
  decide

theorem headerSetting_isSingle (name : String) (step : Variables.IsStepName name) :
    ["uri"].contains (Text.join "." (headerSetting name step).names) = false := by
  have unequal : "headers" ++ "." ++ name ≠ "uri" := by
    intro same
    have first := congrArg (fun text : String => text.toList.head?) same
    simp at first
  simpa [headerSetting, Text.join] using unequal

end ClientSettings

theorem VaultSettings.load_of_read {files : FileSystem} {exported : Variables}
    {loaded : VaultSettings}
    (isRead : read? reader (Variables.apply variableStart [] exported Tree.empty) = some loaded) :
    load files none exported = .ok loaded := by
  simp [load, load?, isRead]

namespace TextSetting

/-- Every setting of a client or of a repository of secrets that holds text, nested ones and headers
included, is given by its variable. -/
theorem loading_keepsText_iff (files : FileSystem) :
    (∀ start, ∀ setting ∈ ClientSettings.textSettings,
        setting.IsGiven (ClientSettings.loadWith files none start) ClientSettings.defaults start) ∧
      (∀ start name step,
        (ClientSettings.headerSetting name step).IsGiven (ClientSettings.loadWith files none start)
          ClientSettings.defaults start) ∧
      ∀ setting ∈ VaultSettings.textSettings,
        setting.IsGiven (VaultSettings.load files none) VaultSettings.defaults
          VaultSettings.variableStart := by
  refine ⟨?client, ?header, ?vault⟩
  case client =>
    intro start setting member
    exact ClientSettings.areRead_textSettings.isGiven
      (fun _ _ => ClientSettings.loadWith_of_read) member
      (ClientSettings.textSettings_areSingle member)
  case header =>
    intro start name step
    exact (ClientSettings.areRead_headerSetting name step).isGiven
      (fun _ _ => ClientSettings.loadWith_of_read) (List.mem_singleton.mpr rfl)
      (ClientSettings.headerSetting_isSingle name step)
  case vault =>
    intro setting member
    exact VaultSettings.areRead_textSettings.isGiven
      (fun _ _ => VaultSettings.load_of_read) member rfl

theorem loading_keepsText_hunter2 :
    (∃ loaded, ClientSettings.load .empty none
        [("PATH", "/bin"), ("CONFIG_CLIENT__PASSWORD", "hunter2")] = .ok loaded ∧
      loaded = { ClientSettings.defaults with password := some "hunter2" }) ∧
    (∃ loaded, ClientSettings.load .empty none
        [("CONFIG_CLIENT__HEADERS__X-TRACE", "007")] = .ok loaded ∧
      loaded.headers = [("x-trace", "7")]) ∧
    ∃ loaded, VaultSettings.load .empty none
        [("CONFIG_SERVER_VAULT__APP_ROLE__SECRET_ID", "hunter2")] = .ok loaded ∧
      loaded.appRole.secretId = some "hunter2" := by
  obtain ⟨ofClient, ofHeader, ofVault⟩ := loading_keepsText_iff .empty
  have plain : Variables.KeepsText "hunter2" := (Variables.kept_eq_iff _).mp (by decide)
  refine ⟨?_, ?_, ?_⟩
  · obtain ⟨loaded, loads, isLoaded, _⟩ := ofClient ClientSettings.variableStart
      ClientSettings.textSettings[4] (List.getElem_mem _) "CONFIG_CLIENT__PASSWORD" "hunter2"
      [("PATH", "/bin")] [] (by decide +kernel) (by decide +kernel)
    exact ⟨loaded, loads, isLoaded⟩
  · obtain ⟨loaded, loads, isLoaded, _⟩ := ofHeader ClientSettings.variableStart "x-trace"
      (by decide) "CONFIG_CLIENT__HEADERS__X-TRACE" "007" [] [] (by decide +kernel) (by decide +kernel)
    exact ⟨loaded, loads, isLoaded ▸ by decide +kernel⟩
  · obtain ⟨loaded, loads, _, keeps⟩ := ofVault
      VaultSettings.textSettings[12] (List.getElem_mem _)
      "CONFIG_SERVER_VAULT__APP_ROLE__SECRET_ID" "hunter2" [] []
      (by decide +kernel) (by decide +kernel)
    exact ⟨loaded, loads, keeps.mpr plain⟩

end TextSetting

/-- A password of digits loses its leading zeros. -/
theorem ClientSettings.load_shortensPassword :
    ∃ loaded, load .empty none [("CONFIG_CLIENT__PASSWORD", "007")] = .ok loaded ∧
      loaded.password ≠ some "007" := by
  have isRead : (load .empty none [("CONFIG_CLIENT__PASSWORD", "007")]).toOption.map (·.password) =
      some (some "7") := by
    decide +kernel
  obtain ⟨loaded, succeeds, password⟩ := Option.map_eq_some_iff.mp isRead
  refine ⟨loaded, eq_ok_of_toOption succeeds, ?_⟩
  rw [password]
  decide

end RemoteConfig
