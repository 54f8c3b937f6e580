import RemoteConfig.Proofs.Outcome
import RemoteConfig.Proofs.Repository.LabelForms

/-!
Contract: the label that an answer of a file repository reports.

Owns:
- requests with the same effective label are answered alike, up to the label that is reported;
- `find_reportsLabel`: when the reported label is the one that was searched for.

Does not own: the directories that a label leads to.
-/

namespace RemoteConfig

def Environment.relabel (label : Option String) (environment : Environment) : Environment :=
  { environment with label := label }

theorem Environment.relabel_eq_self_iff {label : Option String} {environment : Environment} :
    environment.relabel label = environment ↔ environment.label = label := by
  constructor
  · intro same
    exact (congrArg Environment.label same).symm
  · rintro rfl
    rfl

namespace NativeSettings

variable {σ : Type} (settings : NativeSettings) (files : FileSystem) (application profile : String)

def findUnder (memory : σ) (label : Option String) : Lookup σ :=
  (settings.repository files).find ⟨application, profile, label⟩ memory

/-- Requests whose label is the one that is searched for: they name none, or one with text, or else the
very default. -/
def NamesSearched (asked : Option String) : Prop :=
  ∀ label, asked = some label → Text.hasText label = true ∨ settings.defaultLabel = some label

def reportedLabel (asked : Option String) : Option String :=
  asked <|> settings.defaultLabel

variable {settings files application profile}

theorem effectiveLabel_none : settings.effectiveLabel none = settings.defaultLabel :=
  rfl

theorem reportedLabel_eq_effectiveLabel_iff {asked : Option String} :
    settings.reportedLabel asked = settings.effectiveLabel asked ↔ settings.NamesSearched asked := by
  cases asked with
  | none => simp [reportedLabel, effectiveLabel_none, NamesSearched]
  | some label =>
      have reported : settings.reportedLabel (some label) = some label := rfl
      cases isText : Text.hasText label with
      | true =>
          rw [reported, settings.effectiveLabel_of_hasText isText]
          simp [NamesSearched, isText]
      | false =>
          rw [reported, settings.effectiveLabel_of_blank isText, eq_comm]
          simp [NamesSearched, isText]

/-- Only the effective label counts for the files. -/
theorem candidateFiles_congr {first second : Option String}
    (same : settings.effectiveLabel first = settings.effectiveLabel second) :
    settings.candidateFiles files ⟨application, profile, first⟩ =
      settings.candidateFiles files ⟨application, profile, second⟩ := by
  unfold candidateFiles directories stems
  dsimp only
  rw [same]

theorem label_of_findUnder {memory : σ} {asked : Option String} {answer : Environment}
    (answered : (settings.findUnder files application profile memory asked).outcome = .ok answer) :
    answer.label = settings.reportedLabel asked := by
  unfold findUnder repository environment at answered
  dsimp only at answered
  cases listed : settings.candidateFiles files ⟨application, profile, asked⟩ with
  | error fault => simp [listed] at answered
  | ok candidates =>
      simp only [listed] at answered
      generalize loadFiles files _ = loaded at answered
      cases read : loaded.1 with
      | error fault => simp [read, Except.map] at answered
      | ok sources =>
          simp only [read, Except.map, Except.ok.injEq] at answered
          subst answered
          rfl

/-- Under the same effective label a lookup is the same but for the label that it reports. -/
theorem findUnder_congr (memory : σ) {first second : Option String}
    (same : settings.effectiveLabel first = settings.effectiveLabel second) :
    settings.findUnder files application profile memory first =
      { settings.findUnder files application profile memory second with
        outcome := (settings.findUnder files application profile memory second).outcome.map
          (Environment.relabel (settings.reportedLabel first)) } := by
  unfold findUnder repository environment
  dsimp only
  rw [candidateFiles_congr same]
  cases settings.candidateFiles files ⟨application, profile, second⟩ with
  | error fault => rfl
  | ok candidates =>
      dsimp only
      generalize loadFiles files _ = loaded
      cases loaded.1 <;> rfl

theorem effectiveLabel_defaultLabel :
    settings.effectiveLabel settings.defaultLabel = settings.defaultLabel := by
  cases default : settings.defaultLabel with
  | none => rw [effectiveLabel_none, default]
  | some label =>
      -- A blank default is not passed over: there is nothing behind it.
      cases isText : Text.hasText label with
      | true => exact settings.effectiveLabel_of_hasText isText
      | false => rw [settings.effectiveLabel_of_blank isText, default]

theorem effectiveLabel_effectiveLabel (asked : Option String) :
    settings.effectiveLabel (settings.effectiveLabel asked) = settings.effectiveLabel asked := by
  cases asked with
  | none => rw [effectiveLabel_none, effectiveLabel_defaultLabel]
  | some label =>
      cases isText : Text.hasText label with
      | true => rw [settings.effectiveLabel_of_hasText isText, settings.effectiveLabel_of_hasText isText]
      | false => rw [settings.effectiveLabel_of_blank isText, effectiveLabel_defaultLabel]

theorem findUnder_blank (memory : σ) {blank : String} (isBlank : Text.hasText blank = false) :
    settings.findUnder files application profile memory (some blank) =
      { settings.findUnder files application profile memory none with
        outcome := (settings.findUnder files application profile memory none).outcome.map
          (Environment.relabel (some blank)) } :=
  findUnder_congr memory (settings.effectiveLabel_of_blank isBlank)

theorem findUnder_blank_eq_iff (memory : σ) {blank : String} (isBlank : Text.hasText blank = false) :
    settings.findUnder files application profile memory (some blank) =
        settings.findUnder files application profile memory none ↔
      (∃ fault, (settings.findUnder files application profile memory none).outcome = .error fault) ∨
        settings.defaultLabel = some blank := by
  rw [findUnder_blank memory isBlank]
  cases absent : settings.findUnder files application profile memory none with
  | mk outcome logs after =>
      cases outcome with
      | error fault => simp [Except.map]
      | ok answer =>
          have reported : answer.label = settings.defaultLabel :=
            label_of_findUnder (congrArg Lookup.outcome absent)
          simp [Except.map, Environment.relabel_eq_self_iff, reported]

/-- An answer reports the label that was searched for exactly when the request names it: a blank label,
which is passed over in the search, is reported instead of the default. -/
theorem find_reportsLabel (settings : NativeSettings) (files : FileSystem)
    (application profile : String) (memory : σ) :
    (∀ asked answer,
        (settings.findUnder files application profile memory asked).outcome = .ok answer →
          (answer.label = settings.effectiveLabel asked ↔ settings.NamesSearched asked)) ∧
      (∀ asked, settings.candidateFiles files ⟨application, profile, asked⟩ =
        settings.candidateFiles files ⟨application, profile, settings.effectiveLabel asked⟩) ∧
      ∀ blank, Text.hasText blank = false →
        settings.findUnder files application profile memory (some blank) =
            { settings.findUnder files application profile memory none with
              outcome := (settings.findUnder files application profile memory none).outcome.map
                (Environment.relabel (some blank)) } ∧
          (settings.findUnder files application profile memory (some blank) =
              settings.findUnder files application profile memory none ↔
            (∃ fault, (settings.findUnder files application profile memory none).outcome =
              .error fault) ∨ settings.defaultLabel = some blank) := by
  refine ⟨?_, ?_, ?_⟩
  · intro asked answer answered
    rw [label_of_findUnder answered]
    exact reportedLabel_eq_effectiveLabel_iff
  · intro asked
    exact candidateFiles_congr (effectiveLabel_effectiveLabel asked).symm
  · intro blank isBlank
    exact ⟨findUnder_blank memory isBlank, findUnder_blank_eq_iff memory isBlank⟩

/-- A default label with a file in its directory. -/
def defaultsToV2 : NativeSettings := ⟨["cfg"], some "v2", Repository.defaultOrder⟩

def fileUnderV2 : FileSystem :=
  ⟨[], [(["cfg"], .directory), (["cfg", "v2"], .directory),
    (["cfg", "v2", "app.json"], .file (Utf8.encode "\x7b\"color\":\"blue\"\x7d"))]⟩

/-- The label of an answer and the names of its sources. -/
def report (lookup : Lookup Unit) : Option (Option String × List String) :=
  lookup.outcome.toOption.map fun answer =>
    (answer.label, answer.propertySources.map PropertySource.name)

theorem report_default : report (defaultsToV2.findUnder fileUnderV2 "app" "" () none) =
    some (some "v2", ["file:cfg/v2/app.json"]) := by
  decide +kernel

theorem report_relabel (label : Option String) (lookup : Lookup Unit) :
    report { lookup with outcome := lookup.outcome.map (Environment.relabel label) } =
      (report lookup).map fun reported => (label, reported.2) := by
  cases lookup with
  | mk outcome logs memory => cases outcome <;> rfl

/-- A request without a label reports the default, under which its file was found. -/
theorem find_reportsLabel_default :
    ∃ answer, (defaultsToV2.findUnder fileUnderV2 "app" "" () none).outcome = .ok answer ∧
      answer.label = defaultsToV2.effectiveLabel none ∧
      answer.propertySources.map PropertySource.name = ["file:cfg/v2/app.json"] := by
  obtain ⟨answer, succeeds, isReport⟩ := Option.map_eq_some_iff.mp report_default
  have outcome := eq_ok_of_toOption succeeds
  have named : defaultsToV2.NamesSearched none := fun _ isNone => nomatch isNone
  have reported :=
    ((find_reportsLabel defaultsToV2 fileUnderV2 "app" "" ()).1 none answer outcome).mpr named
  exact ⟨answer, outcome, reported, (Prod.mk.inj isReport).2⟩

/-- A blank label reports itself, although the file was found under the default. -/
theorem find_reportsBlank :
    report (defaultsToV2.findUnder fileUnderV2 "app" "" () (some " ")) =
        some (some " ", ["file:cfg/v2/app.json"]) ∧
      defaultsToV2.effectiveLabel (some " ") = some "v2" ∧
      report (defaultsToV2.findUnder fileUnderV2 "app" "" () none) =
        some (some "v2", ["file:cfg/v2/app.json"]) := by
  have isBlank : Text.hasText " " = false := by decide +kernel
  refine ⟨?_, defaultsToV2.effectiveLabel_of_blank isBlank, report_default⟩
  rw [findUnder_blank () isBlank, report_relabel, report_default]
  rfl

end NativeSettings

end RemoteConfig
