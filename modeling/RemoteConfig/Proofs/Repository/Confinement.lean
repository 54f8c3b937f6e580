import RemoteConfig.Proofs.Outcome
import RemoteConfig.Proofs.File.Inside
import RemoteConfig.Repository.Native

/-!
Contract: where the files lie that a file repository serves.

Owns:
- the directories that are searched, all of them inside of a search location;
- the queries whose applications and profiles stay inside of the search locations;
- `candidateFiles_contained_iff`: when all candidates lie inside of the search locations, and that
  every source that is served is one of the candidates.

Does not own: which labels are refused, and what the files hold.
-/

namespace RemoteConfig.NativeSettings

/-- A path lies inside of one of the search locations. -/
def Contains (settings : NativeSettings) (path : String) : Prop :=
  ∃ location ∈ settings.locations, File.IsInside location path

/-- Applications and profiles stay inside: no name of a file climbs, and one that starts at the root
leads into a search location. -/
def IsConfined (settings : NativeSettings) (query : RepositoryQuery) : Prop :=
  ∀ stem ∈ stems query, ".." ∉ (File.names stem).dropLast ∧
    (File.isAbsolute stem = true →
      ∀ extension ∈ DocumentFormat.extensions, settings.Contains (stem ++ "." ++ extension))

/-! ### The names of files -/

/-- An extension is a plain ending of a name. -/
theorem extension_facts {extension : String} (member : extension ∈ DocumentFormat.extensions) :
    '/' ∉ ("." ++ extension).toList ∧ ∀ last : String, last ++ ("." ++ extension) ≠ ".." := by
  have ending : '/' ∉ ("." ++ extension).toList ∧
      ("." ++ extension).toList.getLast? ∈ [some 'l', some 'n'] := by
    revert extension
    decide
  obtain ⟨noSlash, isLetter⟩ := ending
  refine ⟨noSlash, fun last same => ?_⟩
  -- A letter ends the extension, and a dot ends the upward step.
  have dots : ("..").toList.getLast? = some '.' := by decide
  rw [← same, String.toList_append, List.getLast?_append] at dots
  simp only [List.mem_cons, List.not_mem_nil, or_false] at isLetter
  rcases isLetter with ends | ends
  all_goals
    rw [ends, Option.some_or] at dots
    exact absurd dots (by decide)

/-- A file climbs exactly when a name before its last one does. -/
theorem up_mem_names_file {extension : String} (member : extension ∈ DocumentFormat.extensions)
    (stem : String) :
    ".." ∈ File.names (stem ++ "." ++ extension) ↔ ".." ∈ (File.names stem).dropLast := by
  obtain ⟨noSlash, notUp⟩ := extension_facts member
  obtain ⟨front, last, alone, extended⟩ := File.names_append_of_noSlash stem noSlash
  rw [String.append_assoc, extended, alone, List.dropLast_concat, List.mem_append,
    List.mem_singleton]
  exact or_iff_left (notUp last).symm

theorem isAbsolute_file (stem extension : String) :
    File.isAbsolute (stem ++ "." ++ extension) = File.isAbsolute stem := by
  have dot : ("." : String).toList = ['.'] := by decide
  unfold File.isAbsolute
  rw [String.toList_append, String.toList_append, dot]
  cases stem.toList <;> simp

theorem isConfined_of_noSlash {settings : NativeSettings} {query : RepositoryQuery}
    (noSlash : ∀ stem ∈ stems query, '/' ∉ stem.toList) : settings.IsConfined query := by
  intro stem isStem
  have free := noSlash stem isStem
  have single : File.names stem = [stem] := by
    unfold File.names Text.splitAt
    rw [Text.splitChars_of_not_mem free, List.map_singleton, String.ofList_toList]
  refine ⟨by simp [single], fun absolute => ?_⟩
  have first : stem.toList.head? = some '/' := eq_of_beq absolute
  exact absurd (List.mem_of_head? first) free

/-! ### The directories that are searched -/

theorem noUp_of_labelPath {label path : String} (accepted : labelPath label = .ok path) :
    File.isAbsolute path = false ∧ ".." ∉ File.names path := by
  unfold labelPath at accepted
  dsimp only at accepted
  split at accepted
  · rename_i inner
    cases accepted
    simp only [File.isInner, Bool.and_eq_true, Bool.not_eq_true'] at inner
    exact ⟨inner.1.1, by simpa using inner.1.2⟩
  · cases accepted

theorem contains_location {settings : NativeSettings} {location : String}
    (member : location ∈ settings.locations) : settings.Contains location :=
  ⟨location, member, rfl, [], (List.append_nil _).symm, List.not_mem_nil⟩

/-- Every search location is searched, and all that is searched lies inside of one. -/
theorem mem_directories {settings : NativeSettings} {files : FileSystem} {label : Option String}
    {directories : List String} (found : settings.directories files label = .ok directories) :
    (∀ location ∈ settings.locations, location ∈ directories) ∧
      ∀ directory ∈ directories, settings.Contains directory := by
  unfold NativeSettings.directories at found
  split at found
  · cases found
    exact ⟨fun _ member => member, fun _ member => contains_location member⟩
  · rename_i label _
    cases accepted : labelPath label with
    | error fault => simp [accepted, Except.map] at found
    | ok path =>
        obtain ⟨relative, noUp⟩ := noUp_of_labelPath accepted
        simp only [accepted, Except.map, Except.ok.injEq] at found
        subst found
        constructor
        · intro location member
          exact List.mem_flatMap.mpr ⟨location, member, by simp⟩
        · intro directory member
          obtain ⟨location, isLocation, searched⟩ := List.mem_flatMap.mp member
          rcases List.mem_append.mp searched with labelled | bare
          · rw [Option.mem_toList, labelDirectory?] at labelled
            split at labelled
            · cases labelled
              exact ⟨location, isLocation, File.isInside_join relative noUp location⟩
            · cases labelled
          · rw [List.mem_singleton.mp bare]
            exact contains_location isLocation

/-! ### The candidates -/

section Candidates

variable {settings : NativeSettings} {files : FileSystem} {query : RepositoryQuery}
  {candidates : List String}

/-- The candidates are the files of all names in all searched directories, with every extension. -/
theorem mem_candidateFiles (listed : settings.candidateFiles files query = .ok candidates) :
    ∃ directories, settings.directories files query.label = .ok directories ∧
      ∀ path, path ∈ candidates ↔ ∃ stem ∈ stems query, ∃ directory ∈ directories,
        ∃ extension ∈ DocumentFormat.extensions,
          path = File.join directory (stem ++ "." ++ extension) := by
  unfold candidateFiles at listed
  cases found : settings.directories files query.label with
  | error fault => simp [found, Except.map] at listed
  | ok directories =>
      simp only [found, Except.map, Except.ok.injEq] at listed
      subst listed
      exact ⟨directories, rfl, fun path => by simp [eq_comm]⟩

theorem contains_of_isConfined (listed : settings.candidateFiles files query = .ok candidates)
    (confined : settings.IsConfined query) : ∀ path ∈ candidates, settings.Contains path := by
  obtain ⟨directories, found, members⟩ := mem_candidateFiles listed
  intro path member
  obtain ⟨stem, isStem, directory, searched, extension, isExtension, rfl⟩ := (members path).mp member
  obtain ⟨noUp, rooted⟩ := confined stem isStem
  cases absolute : File.isAbsolute stem with
  | true =>
      rw [File.join_of_isAbsolute (by rw [isAbsolute_file, absolute])]
      exact rooted absolute extension isExtension
  | false =>
      obtain ⟨location, isLocation, inside⟩ := (mem_directories found).2 directory searched
      refine ⟨location, isLocation, inside.trans (File.isInside_join ?_ ?_ directory)⟩
      · rw [isAbsolute_file, absolute]
      · rwa [up_mem_names_file isExtension]

/-- Behind search locations without upward steps only the candidates of a confined query stay. -/
theorem isConfined_of_contains (listed : settings.candidateFiles files query = .ok candidates)
    (nonempty : settings.locations ≠ [])
    (plain : ∀ location ∈ settings.locations, ".." ∉ File.names location)
    (contained : ∀ path ∈ candidates, settings.Contains path) : settings.IsConfined query := by
  obtain ⟨directories, found, members⟩ := mem_candidateFiles listed
  obtain ⟨location, isLocation⟩ := List.exists_mem_of_ne_nil _ nonempty
  have searched : location ∈ directories := (mem_directories found).1 location isLocation
  intro stem isStem
  have reached : ∀ extension ∈ DocumentFormat.extensions,
      settings.Contains (File.join location (stem ++ "." ++ extension)) :=
    fun extension isExtension => contained _
      ((members _).mpr ⟨stem, isStem, location, searched, extension, isExtension, rfl⟩)
  constructor
  · -- Upward steps are the same under every extension, so one of them shows that there are none.
    have isExtension : "yml" ∈ DocumentFormat.extensions := by decide
    obtain ⟨other, isOther, inside⟩ := reached "yml" isExtension
    have noUp := inside.noUp (plain other isOther)
    rw [← up_mem_names_file isExtension]
    cases absolute : File.isAbsolute (stem ++ "." ++ "yml") with
    | true => rwa [File.join_of_isAbsolute absolute] at noUp
    | false =>
        rw [← File.up_mem_properNames, File.properNames_join absolute, List.mem_append,
          not_or] at noUp
        exact mt File.up_mem_properNames.mpr noUp.2
  · intro absolute extension isExtension
    have inside := reached extension isExtension
    rwa [File.join_of_isAbsolute (by rw [isAbsolute_file, absolute])] at inside

end Candidates

/-! ### The sources that are served -/

/-- Each source that is loaded is one of the given files. -/
theorem mem_loadFiles {files : FileSystem} {paths : List String} {sources : List PropertySource}
    (loaded : (loadFiles files paths).1 = .ok sources) :
    ∀ source ∈ sources, ∃ path ∈ paths,
      source.name = "file:" ++ path ∧ loadFile files path = .ok source.source := by
  induction paths generalizing sources with
  | nil =>
      cases loaded
      exact fun _ member => absurd member List.not_mem_nil
  | cons path rest inductionHypothesis =>
      rw [loadFiles] at loaded
      cases first : loadFile files path with
      | error fault => simp [first] at loaded
      | ok properties =>
          cases others : (loadFiles files rest).1 with
          | error fault => simp [first, others, Except.map] at loaded
          | ok behind =>
              simp only [first, others, Except.map, Except.ok.injEq] at loaded
              subst loaded
              intro source member
              rcases List.mem_cons.mp member with rfl | later
              · exact ⟨path, List.mem_cons_self, rfl, first⟩
              · obtain ⟨found, isPath, named⟩ := inductionHypothesis others source later
                exact ⟨found, List.mem_cons_of_mem _ isPath, named⟩

/-- The sources of an answer are files among the candidates. -/
theorem mem_environment {settings : NativeSettings} {files : FileSystem} {query : RepositoryQuery}
    {candidates : List String} (listed : settings.candidateFiles files query = .ok candidates)
    {answer : Environment} (answered : (settings.environment files query).1 = .ok answer) :
    ∀ source ∈ answer.propertySources, ∃ path ∈ candidates, files.isFile path = true ∧
      source.name = "file:" ++ path ∧ loadFile files path = .ok source.source := by
  unfold environment at answered
  simp only [listed] at answered
  cases loaded : (loadFiles files (candidates.filter files.isFile)).1 with
  | error fault => simp [loaded, Except.map] at answered
  | ok sources =>
      simp only [loaded, Except.map, Except.ok.injEq] at answered
      subst answered
      intro source member
      have isLoaded : source ∈ sources := by
        simpa [Environment.addAll, RepositoryQuery.emptyAnswer, Environment.empty] using member
      obtain ⟨path, isCandidate, named⟩ := mem_loadFiles loaded source isLoaded
      obtain ⟨listed, isFile⟩ := List.mem_filter.mp isCandidate
      exact ⟨path, listed, isFile, named⟩

/-- Whatever the label, the candidates lie inside of the search locations when applications and
profiles stay inside; behind search locations without upward steps, only then. Nothing else than a
candidate is served. -/
theorem candidateFiles_contained_iff {settings : NativeSettings} {files : FileSystem}
    {query : RepositoryQuery} {candidates : List String}
    (listed : settings.candidateFiles files query = .ok candidates) :
    (settings.IsConfined query → ∀ path ∈ candidates, settings.Contains path) ∧
      (settings.locations ≠ [] → (∀ location ∈ settings.locations, ".." ∉ File.names location) →
        (∀ path ∈ candidates, settings.Contains path) → settings.IsConfined query) ∧
      ∀ (σ : Type) (memory : σ) (answer : Environment),
        ((settings.repository files).find query memory).outcome = .ok answer →
          ∀ source ∈ answer.propertySources, ∃ path ∈ candidates, files.isFile path = true ∧
            source.name = "file:" ++ path ∧ loadFile files path = .ok source.source :=
  ⟨contains_of_isConfined listed, isConfined_of_contains listed,
    fun _ _ _ answered => mem_environment listed answered⟩

/-- A repository with a single search location. -/
def oneLocation : NativeSettings := ⟨["cfg"], none, Repository.defaultOrder⟩

/-- One file in the search location and one beside it. -/
def twoFiles : FileSystem :=
  ⟨[], [(["cfg"], .directory), (["secrets"], .directory),
    (["cfg", "app.json"], .file (Utf8.encode "\x7b\"port\":1\x7d")),
    (["secrets", "app.json"], .file (Utf8.encode "\x7b\"password\":\"hunter2\"\x7d"))]⟩

/-- The names of the sources of an answer. -/
def sourceNames (answer : Except ConfigError Environment) : Option (List String) :=
  answer.toOption.map fun environment => environment.propertySources.map PropertySource.name

/-- An application without slashes is served from the search location. -/
theorem candidateFiles_contained_app :
    ∃ candidates answer, oneLocation.candidateFiles twoFiles ⟨"app", "", none⟩ = .ok candidates ∧
      ((oneLocation.repository twoFiles).find ⟨"app", "", none⟩ ()).outcome = .ok answer ∧
      sourceNames (.ok answer) = some ["file:cfg/app.json"] ∧
      oneLocation.IsConfined ⟨"app", "", none⟩ ∧
      (∀ path ∈ candidates, oneLocation.Contains path) ∧
      ∀ source ∈ answer.propertySources, ∃ path ∈ candidates, source.name = "file:" ++ path := by
  have served : sourceNames
      ((oneLocation.repository twoFiles).find ⟨"app", "", none⟩ ()).outcome =
        some ["file:cfg/app.json"] := by decide +kernel
  have listed : oneLocation.candidateFiles twoFiles ⟨"app", "", none⟩ = .ok _ := rfl
  obtain ⟨inside, confined, sources⟩ := candidateFiles_contained_iff listed
  have noSlash : ∀ stem ∈ stems ⟨"app", "", none⟩, '/' ∉ stem.toList := by decide +kernel
  have contained := inside (isConfined_of_noSlash noSlash)
  obtain ⟨answer, succeeds, _⟩ := Option.map_eq_some_iff.mp served
  have outcome := eq_ok_of_toOption succeeds
  rw [outcome] at served
  refine ⟨_, answer, listed, outcome, served, ?_, contained, fun source member => ?_⟩
  · exact confined (by decide) (by decide) contained
  · obtain ⟨path, isCandidate, _, named, _⟩ := sources Unit () answer outcome source member
    exact ⟨path, isCandidate, named⟩

/-- An application that climbs is served from beside the search location. -/
theorem candidateFiles_climbs :
    ∃ candidates,
      oneLocation.candidateFiles twoFiles ⟨"../secrets/app", "", none⟩ = .ok candidates ∧
        "cfg/../secrets/app.json" ∈ candidates ∧
        ¬ oneLocation.Contains "cfg/../secrets/app.json" ∧
        sourceNames ((oneLocation.repository twoFiles).find ⟨"../secrets/app", "", none⟩ ()).outcome =
          some ["file:cfg/../secrets/app.json"] := by
  refine ⟨_, rfl, by decide +kernel, ?_, by decide +kernel⟩
  rintro ⟨location, member, inside⟩
  rw [List.mem_singleton.mp member] at inside
  exact inside.noUp (by decide) (by decide)

end RemoteConfig.NativeSettings
