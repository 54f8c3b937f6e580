import RemoteConfig.Proofs.Environment.LabelCoding
import RemoteConfig.Proofs.Vault.Mount
import RemoteConfig.Proofs.Vault.Reading
import RemoteConfig.Repository.Native

/-!
Contract: the two forms of a label, as they are understood by repositories.

Owns:
- answers that have the same sources, or fail in the same way;
- files are served under either form of a label alike;
- secrets are served under the very text of a label, so that the forms part where they differ;
- `labelForms_agree`: which repositories take both forms for the same label.

Does not own: which directories a label may name.
-/

namespace RemoteConfig

/-- Failures of the same kind, whatever they name. -/
def ConfigError.SameKind : ConfigError → ConfigError → Prop
  | load _, load _ => True
  | shape _, shape _ => True
  | fetch _, fetch _ => True
  | failFast .., failFast .. => True
  | settings _, settings _ => True
  | vault _, vault _ => True
  | other _, other _ => True
  | _, _ => False

theorem ConfigError.SameKind.refl (error : ConfigError) : error.SameKind error := by
  cases error <;> trivial

/-- Answers with the same sources, or failures of the same kind. -/
inductive AnswersAlike : Except ConfigError Environment → Except ConfigError Environment → Prop
  | ok {first second : Environment} (same : first.propertySources = second.propertySources) :
      AnswersAlike (.ok first) (.ok second)
  | error {first second : ConfigError} (same : first.SameKind second) :
      AnswersAlike (.error first) (.error second)

/-- The same sources answer alike, whatever label the environment names. -/
theorem answersAlike_labels (name : String) (profiles : List String) (first second : Option String)
    (outcome : Except ConfigError (List PropertySource)) :
    AnswersAlike (outcome.map (Environment.empty name profiles first).addAll)
      (outcome.map (Environment.empty name profiles second).addAll) := by
  cases outcome with
  | error error => exact .error (.refl error)
  | ok sources => exact .ok rfl

/-! ### Files -/

namespace NativeSettings

variable (settings : NativeSettings) (files : FileSystem) (application profile label : String)

theorem effectiveLabel_of_hasText {label : String} (isText : Text.hasText label = true) :
    settings.effectiveLabel (some label) = some label := by
  rw [effectiveLabel, Text.nonBlank_of_hasText isText]
  rfl

theorem effectiveLabel_of_blank {label : String} (isBlank : Text.hasText label = false) :
    settings.effectiveLabel (some label) = settings.defaultLabel := by
  rw [effectiveLabel, Text.nonBlank_of_blank isBlank]
  rfl

/-- Both forms of a label lead to the same directories, or both are refused. -/
theorem directories_toWire :
    settings.directories files (some (Label.toWire label)) =
        settings.directories files (some label) ∨
      (settings.directories files (some (Label.toWire label)) =
          .error (.settings (.labelOutside (Label.toWire label))) ∧
        settings.directories files (some label) = .error (.settings (.labelOutside label))) := by
  have sameText := Label.hasText_toWire label
  unfold directories
  cases isText : Text.hasText label with
  | true =>
      rw [isText] at sameText
      rw [settings.effectiveLabel_of_hasText isText, settings.effectiveLabel_of_hasText sameText]
      dsimp only [labelPath]
      rw [Label.ofWire_toWire]
      by_cases isInner : File.isInner (Label.ofWire label) = true
      · rw [if_pos isInner, if_pos isInner]
        exact .inl rfl
      · rw [if_neg isInner, if_neg isInner]
        exact .inr ⟨rfl, rfl⟩
  | false =>
      rw [isText] at sameText
      rw [settings.effectiveLabel_of_blank isText, settings.effectiveLabel_of_blank sameText]
      exact .inl rfl

theorem environment_alike {first second : Option String}
    (same : settings.directories files first = settings.directories files second) :
    AnswersAlike (settings.environment files ⟨application, profile, first⟩).1
      (settings.environment files ⟨application, profile, second⟩).1 := by
  unfold environment candidateFiles stems
  dsimp only
  rw [same]
  cases settings.directories files second with
  | error error => exact .error (.refl error)
  | ok directories =>
      dsimp only [Except.map]
      generalize loadFiles files _ = loaded
      exact answersAlike_labels application (Text.splitList profile) _ _ loaded.1

/-- Files are served under both forms of a label alike. -/
theorem environment_toWire :
    AnswersAlike
      (settings.environment files ⟨application, profile, some (Label.toWire label)⟩).1
      (settings.environment files ⟨application, profile, some label⟩).1 := by
  rcases settings.directories_toWire files label with same | ⟨wire, plain⟩
  · exact settings.environment_alike files application profile same
  · unfold environment candidateFiles
    dsimp only
    rw [wire, plain]
    exact .error trivial

end NativeSettings

/-! ### Secrets -/

namespace VaultSettings

variable (settings : VaultSettings)

/-- Are the two forms of a label one label for the secrets? Either labels do not count, or the forms
are the same text. -/
def TakesForms (label : String) : Prop :=
  settings.labelEnabled = false ∨ '/' ∉ label.toList

instance (label : String) : Decidable (settings.TakesForms label) :=
  inferInstanceAs (Decidable (_ ∨ _))

theorem secretPath_of_takesForms {settings : VaultSettings} {label : String}
    (takes : settings.TakesForms label) (key : String) :
    settings.secretPath key (some (Label.toWire label)) = settings.secretPath key (some label) := by
  rcases takes with disabled | noSlash
  · simp [secretPath, pathParts, labelPart, disabled]
  · rw [Label.toWire_of_noSlash noSlash]

/-- Where labels count, the path of a secret ends with a label that has text. -/
theorem label_suffix_secretPath {settings : VaultSettings} (enabled : settings.labelEnabled = true)
    {label : String} (isText : Text.hasText label = true) (key : String) :
    label.toList <:+ (settings.secretPath key (some label)).toList := by
  rw [secretPath_toList, tailText, labelPart, if_pos enabled, Text.nonBlank_of_hasText isText]
  refine ⟨(withoutLast settings.backend).toList ++ settings.mountRest ++ '/' :: key.toList ++ ['/'],
    ?_⟩
  simp [Text.join]

/-- Where labels count, no path under a label with a slash is one under its wire form. -/
theorem secretPath_toWire_ne {settings : VaultSettings} (enabled : settings.labelEnabled = true)
    {label : String} (slash : '/' ∈ label.toList) (key other : String) :
    settings.secretPath other (some (Label.toWire label)) ≠ settings.secretPath key (some label) := by
  intro same
  have isText := Label.hasText_of_slash slash
  have wireText : Text.hasText (Label.toWire label) = true := (Label.hasText_toWire label).trans isText
  have wireEnds := label_suffix_secretPath enabled wireText other
  rw [same] at wireEnds
  -- The wire form is the longer ending of the same path, so the slash of the label stands in it.
  have inside : label.toList <:+ (Label.toWire label).toList :=
    List.suffix_of_suffix_length_le (label_suffix_secretPath enabled isText key) wireEnds
      (Label.length_le_toWire label)
  exact Label.slash_not_mem_toWire label (inside.subset slash)

end VaultSettings

namespace VaultRepository

variable (repository : VaultRepository) (application profile : String) {label : String}

/-- Secrets are served under both forms of a label alike where these are one label. -/
theorem find_toWire (takes : repository.settings.TakesForms label) (session : VaultSession) :
    AnswersAlike
      (repository.find ⟨application, profile, some (Label.toWire label)⟩ session).outcome
      (repository.find ⟨application, profile, some label⟩ session).outcome := by
  have withToken (token : String) (reached : VaultSession) :
      AnswersAlike
        (repository.findForToken ⟨application, profile, some (Label.toWire label)⟩ token
          reached).outcome
        (repository.findForToken ⟨application, profile, some label⟩ token reached).outcome := by
    unfold findForToken keys statedProfiles
    dsimp only
    rw [repository.readKeys_congr fun key _ => VaultSettings.secretPath_of_takesForms takes key]
    generalize repository.readKeys _ _ _ _ = read
    exact answersAlike_labels application _ _ _ read.outcome
  unfold find
  cases session.token with
  | some token => exact withToken token session
  | none =>
      dsimp only
      cases (repository.settings.acquireToken repository.context repository.operations
          session.calls).outcome with
      | error error => exact .error (.refl error)
      | ok token =>
          dsimp only
          exact withToken token _

/-- A secret that has properties under either version of a backend. -/
def wrappedSecret : Json :=
  .object [("data", .object [("k", .bool true)])]

theorem properties_wrappedSecret (settings : VaultSettings) :
    (settings.properties wrappedSecret).isEmpty = false := by
  have first : (flatten wrappedSecret).isEmpty = false := by decide +kernel
  have second : (flatten (.object [("k", .bool true)])).isEmpty = false := by decide +kernel
  unfold VaultSettings.properties
  by_cases isSecond : settings.kvVersion = 2
  · rw [if_pos isSecond]
    exact second
  · rw [if_neg isSecond]
    exact first

/-- A store with one secret. -/
def storeOf (path : String) : String → Option Json :=
  fun asked => if asked = path then some wrappedSecret else none

/-- The repository over another store; how it logs in stays. -/
def withStore (store : String → Option Json) : VaultRepository :=
  { repository with
    operations := { repository.operations with read := fun _ path _ => .ok (store path) } }

theorem withStore_serves (store : String → Option Json) (token : String) :
    (repository.withStore store).operations.Serves token store :=
  fun _ _ => rfl

/-- Where the forms of a label are two labels, some store has a secret under one of them only. -/
theorem exists_store_apart (parts : ¬ repository.settings.TakesForms label) :
    ∃ store, ∀ session token, session.token = some token →
      ¬ AnswersAlike
        ((repository.withStore store).find ⟨application, profile, some (Label.toWire label)⟩
          session).outcome
        ((repository.withStore store).find ⟨application, profile, some label⟩ session).outcome := by
  obtain ⟨enabled, slash⟩ : repository.settings.labelEnabled = true ∧ '/' ∈ label.toList := by
    simpa [VaultSettings.TakesForms] using parts
  obtain ⟨key, isKey⟩ := List.exists_mem_of_ne_nil _
    (keys_ne_nil repository.settings application
      ((Text.splitList profile).filter fun name => name != defaultProfile))
  let store := storeOf (repository.settings.secretPath key (some label))
  refine ⟨store, fun session token known alike => ?_⟩
  have lookup (asked : String) :
      ((repository.withStore store).find ⟨application, profile, some asked⟩ session).outcome = _ :=
    (congrArg Lookup.outcome (by simp only [find, known])).trans
      ((repository.withStore store).findForToken_of_serves
        (repository.withStore_serves store token) ⟨application, profile, some asked⟩ session)
  rw [lookup, lookup] at alike
  -- Under the wire form no key has a secret; under the label itself the chosen one has.
  have none : ((repository.withStore store).keys
      ⟨application, profile, some (Label.toWire label)⟩).filterMap
        ((repository.withStore store).source? store (some (Label.toWire label))) = [] := by
    refine List.filterMap_eq_nil_iff.mpr fun other _ => ?_
    have apart : store ((repository.withStore store).settings.secretPath other
        (some (Label.toWire label))) = Option.none :=
      if_neg (VaultSettings.secretPath_toWire_ne enabled slash key other)
    simp [source?, secretProperties, apart]
  have found : ⟨VaultSettings.sourceName key, repository.settings.properties wrappedSecret⟩ ∈
      ((repository.withStore store).keys ⟨application, profile, some label⟩).filterMap
        ((repository.withStore store).source? store (some label)) := by
    refine List.mem_filterMap.mpr ⟨key, isKey, ?_⟩
    have held : store ((repository.withStore store).settings.secretPath key (some label)) =
        some wrappedSecret := if_pos rfl
    simp only [source?, secretProperties, held, Option.map_some, Option.getD_some]
    exact if_neg (by simp [withStore, properties_wrappedSecret])
  obtain ⟨same⟩ := alike
  simp only [Environment.addAll, Environment.empty, List.nil_append] at same
  rw [none] at same
  rw [← same] at found
  exact absurd found List.not_mem_nil

end VaultRepository

/-! ### Both repositories -/

/-- How the repositories understand the two forms of a label. -/
structure FormsAgree (label : String) : Prop where
  /-- Files are served under both forms alike. -/
  files : ∀ (settings : NativeSettings) (files : FileSystem) (application profile : String)
    {σ : Type} (memory : σ),
    AnswersAlike
      ((settings.repository files).find ⟨application, profile, some (Label.toWire label)⟩
        memory).outcome
      ((settings.repository files).find ⟨application, profile, some label⟩ memory).outcome
  /-- So are secrets, where labels do not count or the label has no slash. -/
  secrets : ∀ (repository : VaultRepository) (application profile : String),
    repository.settings.TakesForms label → ∀ session : VaultSession,
      AnswersAlike
        (repository.find ⟨application, profile, some (Label.toWire label)⟩ session).outcome
        (repository.find ⟨application, profile, some label⟩ session).outcome
  /-- In every other case some store has secrets under one of the forms only. -/
  apart : ∀ (repository : VaultRepository) (application profile : String),
    ¬ repository.settings.TakesForms label → ∃ store, ∀ (session : VaultSession) (token : String),
      session.token = some token →
        ¬ AnswersAlike
          ((repository.withStore store).find ⟨application, profile, some (Label.toWire label)⟩
            session).outcome
          ((repository.withStore store).find ⟨application, profile, some label⟩ session).outcome

/-- Files are served under the wire form of every label as they are under the label itself. Secrets
are for every store exactly when labels do not count or the label has no slash: their paths hold the
text of a label as it was received. -/
theorem labelForms_agree (label : String) : FormsAgree label where
  files settings files application profile _ _ :=
    settings.environment_toWire files application profile label
  secrets repository application profile takes session :=
    repository.find_toWire application profile takes session
  apart repository application profile parts :=
    repository.exists_store_apart application profile parts

/-- Secrets with labels, one of them under the label `feature/login`. -/
def labelledSecrets : VaultRepository where
  settings :=
    { VaultSettings.defaults with
      labelEnabled := true
      token := some "s.root" }
  context := ⟨FileSystem.empty, [], 0, []⟩
  operations :=
    { read _ path _ := .ok (VaultRepository.storeOf "secret/app/feature/login" path)
      login _ _ _ _ := .ok ""
      fetch _ _ := .ok "" }

/-- Under the wire form of its label that secret is not found. -/
theorem labelForms_part :
    ¬ AnswersAlike
      (labelledSecrets.find ⟨"app", "", some (Label.toWire "feature/login")⟩ .start).outcome
      (labelledSecrets.find ⟨"app", "", some "feature/login"⟩ .start).outcome := by
  have wire : (labelledSecrets.find ⟨"app", "", some (Label.toWire "feature/login")⟩
      .start).outcome = .ok ⟨"app", ["default"], some "feature(_)login", none, none, []⟩ := by
    rfl
  have plain : (labelledSecrets.find ⟨"app", "", some "feature/login"⟩ .start).outcome =
      .ok ⟨"app", ["default"], some "feature/login", none, none,
        [⟨"vault:app", [("data.k", .bool true)]⟩]⟩ := by
    rfl
  rw [wire, plain]
  rintro ⟨same⟩
  exact List.cons_ne_nil _ _ same.symm

end RemoteConfig
