import RemoteConfig.Proofs.File.Resolution
import RemoteConfig.Repository.Native

/-!
Contract: the directories that labels lead to.

Owns:
- what a file repository asks of a file system, and its candidates for any answers to that;
- labels that would leave a search location by their names;
- `candidateFiles_confinesLabels`: which labels are refused, and where the directories lie that are
  searched under the others.

Does not own: the names of the files in a directory.
-/

namespace RemoteConfig

/-! ### File systems as they are asked -/

/-- What a file repository asks of a file system: which paths are directories, and the names on the
canonical path of what a path leads to. -/
structure FileView where
  isDirectory : String → Bool
  canonical? : String → Option (List String)

namespace FileView

/-- Is a path a directory whose canonical path lies at or below that of a location? -/
def holds (view : FileView) (location path : String) : Bool :=
  view.isDirectory path &&
    match view.canonical? location, view.canonical? path with
    | some outer, some inner => outer.isPrefixOf inner
    | _, _ => false

theorem holds_iff (view : FileView) (location path : String) :
    view.holds location path = true ↔ view.isDirectory path = true ∧
      ∃ outer inner, view.canonical? location = some outer ∧ view.canonical? path = some inner ∧
        outer <+: inner := by
  unfold holds
  cases view.canonical? location <;> cases view.canonical? path <;> simp

end FileView

def FileSystem.view (files : FileSystem) : FileView :=
  ⟨files.isDirectory, fun path => (files.resolve path).toOption⟩

theorem FileSystem.holds_view (files : FileSystem) (location path : String) :
    files.view.holds location path =
      (files.isDirectory path && files.isWithin location path) := by
  unfold FileView.holds FileSystem.view FileSystem.isWithin
  dsimp only
  cases files.resolve location <;> cases files.resolve path <;> rfl

namespace NativeSettings

/-! ### Labels as paths -/

/-- A path is absolute, or begins with a step on the spot, or has a step upwards. -/
def LeavesByName (path : String) : Prop :=
  File.isAbsolute path = true ∨ (File.names path).head? = some "." ∨ ".." ∈ File.names path

theorem isInner_iff (path : String) : File.isInner path = true ↔ ¬ LeavesByName path := by
  unfold File.isInner LeavesByName
  simp only [Bool.and_eq_true, Bool.not_eq_true', List.contains_eq_mem, decide_eq_false_iff_not,
    bne_iff_ne, ne_eq, not_or, Bool.not_eq_true]
  rw [and_assoc, and_comm (a := ".." ∉ _)]

theorem labelPath_of_inner {label : String} (inner : ¬ LeavesByName (Label.ofWire label)) :
    labelPath label = .ok (Label.ofWire label) := by
  rw [← isInner_iff] at inner
  exact if_pos inner

theorem labelPath_of_leaves {label : String} (leaves : LeavesByName (Label.ofWire label)) :
    labelPath label = .error (.settings (.labelOutside label)) := by
  have notInner : ¬ File.isInner (Label.ofWire label) = true :=
    fun inner => (isInner_iff _).mp inner leaves
  exact if_neg notInner

/-! ### Candidates over any file system -/

def filesIn (stem directory : String) : List String :=
  DocumentFormat.extensions.map fun extension => File.join directory (stem ++ "." ++ extension)

/-- The directories that are searched for a location: that of a label, where the location holds it,
and then the location itself. -/
def searched (view : FileView) (path : Option String) (location : String) : List String :=
  ((path.map (File.join location)).filter (view.holds location)).toList ++ [location]

/-- The candidates of a query, given what is asked of the file system. -/
def candidatesIn (settings : NativeSettings) (view : FileView) (query : RepositoryQuery) :
    Except ConfigError (List String) :=
  ((settings.effectiveLabel query.label).mapM labelPath).map fun path =>
    (stems query).flatMap fun stem =>
      settings.locations.flatMap fun location => (searched view path location).flatMap (filesIn stem)

theorem candidateFiles_eq_candidatesIn (settings : NativeSettings) (files : FileSystem)
    (query : RepositoryQuery) :
    settings.candidateFiles files query = settings.candidatesIn files.view query := by
  have listed (path location : String) : (labelDirectory? files location path).toList ++ [location] =
      searched files.view (some path) location := by
    unfold searched labelDirectory?
    rw [Option.map_some, Option.filter_some, files.holds_view]
  unfold candidateFiles candidatesIn directories
  cases settings.effectiveLabel query.label with
  | none =>
      have bare (location : String) : searched files.view none location = [location] := rfl
      show Except.ok _ = Except.ok _
      simp only [bare, List.flatMap_singleton]
      rfl
  | some label =>
      dsimp only
      rw [Option.mapM_some]
      cases labelPath label with
      | error error => rfl
      | ok path =>
          show Except.ok _ = Except.ok _
          simp only [listed, List.flatMap_assoc]
          rfl

/-! ### Where the directories lie -/

/-- A label leads to a directory of a location: one that is there, and whose canonical path lies at or
below that of the location. -/
structure IsLabelDirectory (settings : NativeSettings) (view : FileView) (asked : Option String)
    (location directory : String) : Prop where
  named : ∃ label, settings.effectiveLabel asked = some label ∧
    directory = File.join location (Label.ofWire label)
  isDirectory : view.isDirectory directory = true
  below : ∃ outer inner, view.canonical? location = some outer ∧
    view.canonical? directory = some inner ∧ outer <+: inner

/-- Candidates that stay where a label may lead. -/
structure ConfinesLabels (settings : NativeSettings) (view : FileView) (query : RepositoryQuery)
    (outcome : Except ConfigError (List String)) : Prop where
  refuses : ∀ error, outcome = .error error ↔
    ∃ label, settings.effectiveLabel query.label = some label ∧
      LeavesByName (Label.ofWire label) ∧ error = .settings (.labelOutside label)
  lists : ∀ candidates, outcome = .ok candidates → ∃ searched : String → List String,
    candidates = (stems query).flatMap (fun stem =>
      settings.locations.flatMap fun location => (searched location).flatMap (filesIn stem)) ∧
    ∀ location,
      (∀ directory, settings.IsLabelDirectory view query.label location directory →
        searched location = [directory, location]) ∧
      ((¬ ∃ directory, settings.IsLabelDirectory view query.label location directory) →
        searched location = [location])

variable {settings : NativeSettings} {view : FileView} {query : RepositoryQuery}

theorem searched_of_holds {location path : String}
    (held : view.holds location (File.join location path) = true) :
    searched view (some path) location = [File.join location path, location] := by
  unfold searched
  rw [Option.map_some, Option.filter_some, if_pos held]
  rfl

theorem searched_of_not_holds {location path : String}
    (notHeld : ¬ view.holds location (File.join location path) = true) :
    searched view (some path) location = [location] := by
  unfold searched
  rw [Option.map_some, Option.filter_some, if_neg notHeld]
  rfl

theorem isLabelDirectory_iff {label location directory : String} {asked : Option String}
    (effective : settings.effectiveLabel asked = some label) :
    settings.IsLabelDirectory view asked location directory ↔
      directory = File.join location (Label.ofWire label) ∧
        view.holds location directory = true := by
  rw [view.holds_iff]
  constructor
  · rintro ⟨⟨other, same, named⟩, isDirectory, below⟩
    cases effective.symm.trans same
    exact ⟨named, isDirectory, below⟩
  · rintro ⟨named, isDirectory, below⟩
    exact ⟨⟨label, effective, named⟩, isDirectory, below⟩

theorem confinesLabels_of_none (noLabel : settings.effectiveLabel query.label = none) :
    settings.ConfinesLabels view query (settings.candidatesIn view query) := by
  have listed : settings.candidatesIn view query = .ok ((stems query).flatMap fun stem =>
      settings.locations.flatMap fun location =>
        (searched view none location).flatMap (filesIn stem)) := by
    unfold candidatesIn
    rw [noLabel]
    rfl
  constructor
  · intro error
    rw [listed]
    simp [noLabel]
  · intro candidates same
    cases listed.symm.trans same
    refine ⟨searched view none, rfl, fun location => ⟨?_, fun _ => rfl⟩⟩
    rintro directory ⟨⟨label, effective, _⟩, _, _⟩
    cases noLabel.symm.trans effective

theorem confinesLabels_of_leaves {label : String}
    (effective : settings.effectiveLabel query.label = some label)
    (leaves : LeavesByName (Label.ofWire label)) :
    settings.ConfinesLabels view query (settings.candidatesIn view query) := by
  have refused : settings.candidatesIn view query = .error (.settings (.labelOutside label)) := by
    unfold candidatesIn
    rw [effective, Option.mapM_some, labelPath_of_leaves leaves]
    rfl
  constructor
  · intro error
    rw [refused]
    constructor
    · rintro ⟨⟩
      exact ⟨label, effective, leaves, rfl⟩
    · rintro ⟨other, same, _, rfl⟩
      cases effective.symm.trans same
      rfl
  · intro candidates same
    cases refused.symm.trans same

theorem confinesLabels_of_inner {label : String}
    (effective : settings.effectiveLabel query.label = some label)
    (inner : ¬ LeavesByName (Label.ofWire label)) :
    settings.ConfinesLabels view query (settings.candidatesIn view query) := by
  have listed : settings.candidatesIn view query = .ok ((stems query).flatMap fun stem =>
      settings.locations.flatMap fun location =>
        (searched view (some (Label.ofWire label)) location).flatMap (filesIn stem)) := by
    unfold candidatesIn
    rw [effective, Option.mapM_some, labelPath_of_inner inner]
    rfl
  constructor
  · intro error
    rw [listed]
    constructor
    · rintro ⟨⟩
    · rintro ⟨other, same, leaves, _⟩
      cases effective.symm.trans same
      exact absurd leaves inner
  · intro candidates same
    cases listed.symm.trans same
    refine ⟨searched view (some (Label.ofWire label)), rfl, fun location => ⟨?_, ?_⟩⟩
    · intro directory isLabel
      obtain ⟨rfl, held⟩ := (isLabelDirectory_iff effective).mp isLabel
      exact searched_of_holds held
    · intro noneIs
      apply searched_of_not_holds
      intro held
      exact noneIs ⟨_, (isLabelDirectory_iff effective).mpr ⟨rfl, held⟩⟩

/-- Whatever a file system answers, a label is refused exactly when it would leave by its names, and
below each location only a directory that the location holds is searched, in front of the location. The
paths that decide it are canonical: they lead to where they stand without links and upward steps. -/
theorem candidateFiles_confinesLabels (settings : NativeSettings) (query : RepositoryQuery) :
    (∀ view, settings.ConfinesLabels view query (settings.candidatesIn view query)) ∧
      ∀ files : FileSystem,
        settings.ConfinesLabels files.view query (settings.candidateFiles files query) ∧
          ∀ path place, files.view.canonical? path = some place →
            files.IsCanonical place ∧ files.follow 1 place [] = .ok place := by
  have confines (view : FileView) :
      settings.ConfinesLabels view query (settings.candidatesIn view query) := by
    cases effective : settings.effectiveLabel query.label with
    | none => exact confinesLabels_of_none effective
    | some label =>
        by_cases leaves : LeavesByName (Label.ofWire label)
        · exact confinesLabels_of_leaves effective leaves
        · exact confinesLabels_of_inner effective leaves
  refine ⟨confines, fun files => ⟨?_, ?_⟩⟩
  · rw [candidateFiles_eq_candidatesIn]
    exact confines files.view
  · intro path place canonical
    unfold FileSystem.view at canonical
    cases resolved : files.resolve path with
    | error fault => simp [resolved, Except.toOption] at canonical
    | ok reached =>
        simp only [resolved, Except.toOption, Option.some.injEq] at canonical
        subst canonical
        have isCanonical := FileSystem.isCanonical_of_resolve resolved
        exact ⟨isCanonical, isCanonical.follow_names⟩

/-- A search location with a directory and two links, one of which leads out of it. -/
def linkedLocation : FileSystem :=
  ⟨[], [(["cfg"], .directory), (["cfg", "v2"], .directory), (["cfg", "in"], .link "v2"),
    (["cfg", "out"], .link "../secrets"), (["secrets"], .directory)]⟩

/-- A link inside of a location is searched, one out of it is not, and steps upwards are refused. -/
theorem candidateFiles_confinesLabels_linked :
    let settings : NativeSettings := ⟨["cfg"], none, Repository.defaultOrder⟩
    let asked (label : String) : RepositoryQuery := ⟨"app", "", some label⟩
    settings.candidateFiles linkedLocation (asked "in") = .ok ((stems (asked "in")).flatMap
        fun stem => filesIn stem "cfg/in" ++ filesIn stem "cfg") ∧
      settings.candidateFiles linkedLocation (asked "out") = .ok ((stems (asked "out")).flatMap
        fun stem => filesIn stem "cfg") ∧
      settings.candidateFiles linkedLocation (asked "..(_)secrets") =
        .error (.settings (.labelOutside "..(_)secrets")) ∧
      linkedLocation.IsCanonical ["cfg", "v2"] := by
  intro settings asked
  have confines (label : String) :=
    (candidateFiles_confinesLabels settings (asked label)).2 linkedLocation
  refine ⟨?_, ?_, ?_, ?_⟩
  · have listed : settings.candidateFiles linkedLocation (asked "in") = .ok _ := rfl
    obtain ⟨searched, same, below⟩ := (confines "in").1.lists _ listed
    have isLabel :
        settings.IsLabelDirectory linkedLocation.view (asked "in").label "cfg" "cfg/in" :=
      ⟨⟨"in", by decide +kernel, by decide +kernel⟩, by decide +kernel, ["cfg"], ["cfg", "v2"],
        by decide +kernel, by decide +kernel, by decide⟩
    rw [listed, same]
    simp [settings, (below "cfg").1 _ isLabel]
  · have listed : settings.candidateFiles linkedLocation (asked "out") = .ok _ := rfl
    obtain ⟨searched, same, below⟩ := (confines "out").1.lists _ listed
    have noLabel : ¬ ∃ directory,
        settings.IsLabelDirectory linkedLocation.view (asked "out").label "cfg" directory := by
      have effective : settings.effectiveLabel (asked "out").label = some "out" := by decide +kernel
      rintro ⟨directory, isLabel⟩
      obtain ⟨rfl, held⟩ := (isLabelDirectory_iff effective).mp isLabel
      exact absurd held (by decide +kernel)
    rw [listed, same]
    simp [settings, (below "cfg").2 noLabel]
  · apply ((confines "..(_)secrets").1.refuses _).mpr
    refine ⟨"..(_)secrets", by decide +kernel, .inr (.inr ?_), rfl⟩
    decide +kernel
  · exact ((confines "in").2 "cfg/in" ["cfg", "v2"] (by decide +kernel)).1

end NativeSettings

end RemoteConfig
