import RemoteConfig.Proofs.Client.Classification
import RemoteConfig.Proofs.Client.Lookup
import RemoteConfig.Proofs.Environment.Leaves
import RemoteConfig.Proofs.File.NameLength
import RemoteConfig.Proofs.Outcome
import RemoteConfig.Proofs.Repository.Confinement

/-!
Contract: the order in which files are searched is the order in which the client looks properties up.

Owns:
- the files of a query in their order: those of profiles, and behind them the general ones;
- the layers of the files of a profile are for that profile, and those of general files for none;
- `precedence_fromFiles`: the client finds a property in the first file that has it.

Does not own: profiles that are patterns of their own, and which labels are refused.
-/

namespace RemoteConfig

/-- Text without the characters that separate a profile from the rest of a name, and in one line. -/
def IsUnseparated (text : String) : Prop :=
  ∀ character ∈ text.toList, character ≠ '-' ∧ character ≠ ',' ∧ character ≠ '\n'

instance (text : String) : Decidable (IsUnseparated text) :=
  List.decidableBAll _ text.toList

theorem isUnseparated_append {first second : String} :
    IsUnseparated (first ++ second) ↔ IsUnseparated first ∧ IsUnseparated second := by
  simp only [IsUnseparated, String.toList_append, List.forall_mem_append]

theorem IsUnseparated.oneLine {text : String} (isUnseparated : IsUnseparated text) :
    '\n' ∉ text.toList :=
  fun member => (isUnseparated _ member).2.2 rfl

/-- Joining adds no separator. -/
theorem isUnseparated_join {directory path : String} (isDirectory : IsUnseparated directory)
    (isPath : IsUnseparated path) : IsUnseparated (File.join directory path) := by
  obtain ⟨front, joined, characters⟩ := File.exists_front_of_join directory path
  rw [joined, isUnseparated_append]
  refine ⟨fun character member => ?_, isPath⟩
  rcases characters character member with rfl | old
  · decide
  · exact isDirectory character old

namespace Profile

theorem isUnseparated_of_isWord {profile : String} (isWord : IsWord profile) :
    IsUnseparated profile := by
  intro character member
  have notIn (other : Char) (isNone : ¬ IsWordChar other) : character ≠ other := by
    rintro rfl
    exact isNone (isWord.2 character member)
  exact ⟨notIn '-' (by decide), notIn ',' (by decide), notIn '\n' (by decide)⟩

/-- No profile stands in a name without separators. -/
theorem not_standsIn_of_isUnseparated {profile name : String} (isUnseparated : IsUnseparated name) :
    ¬ StandsIn profile name := by
  rintro ⟨front, separator, behind, isName, isSeparator, _⟩
  have member : separator ∈ name.toList := by simp [isName]
  obtain ⟨noHyphen, noComma, _⟩ := isUnseparated separator member
  exact isSeparator.elim noHyphen noComma

end Profile

namespace NativeSettings

/-! ### The files of a query in their order -/

/-- The files of some names without extension, in the order in which they are searched. -/
def filesOf (directories stems : List String) : List String :=
  stems.flatMap fun stem =>
    directories.flatMap fun directory =>
      DocumentFormat.extensions.map fun extension => File.join directory (stem ++ "." ++ extension)

/-- The names of the files of profiles. -/
def profileStems (query : RepositoryQuery) : List String :=
  (profilesOf query.profile).flatMap fun profile =>
    (applicationsOf query.application).map fun name => name ++ "-" ++ profile

theorem mem_filesOf {directories stems : List String} {path : String} :
    path ∈ filesOf directories stems ↔ ∃ stem ∈ stems, ∃ directory ∈ directories,
      ∃ extension ∈ DocumentFormat.extensions,
        path = File.join directory (stem ++ "." ++ extension) := by
  simp [filesOf, eq_comm]

/-- The profiles of a query that names some are those. -/
theorem mem_of_mem_profilesOf {profile : String} {asked : String}
    (someProfile : Text.splitList asked ≠ []) (member : profile ∈ profilesOf asked) :
    profile ∈ Text.splitList asked := by
  unfold profilesOf at member
  split at member
  · rename_i none
    exact absurd (List.reverse_eq_nil_iff.mp none) someProfile
  · exact List.mem_reverse.mp member

/-- The files of profiles are searched before the general ones. -/
theorem candidateFiles_eq {settings : NativeSettings} {files : FileSystem} {query : RepositoryQuery}
    {candidates : List String} (listed : settings.candidateFiles files query = .ok candidates) :
    ∃ directories, settings.directories files query.label = .ok directories ∧
      candidates = filesOf directories (profileStems query) ++
        filesOf directories (applicationsOf query.application) := by
  unfold candidateFiles at listed
  cases found : settings.directories files query.label with
  | error fault => simp [found, Except.map] at listed
  | ok directories =>
      simp only [found, Except.map, Except.ok.injEq] at listed
      refine ⟨directories, rfl, ?_⟩
      rw [← listed, stems, List.flatMap_append]
      rfl

/-- The source of a file that is loaded. -/
def fileSource (files : FileSystem) (path : String) : PropertySource :=
  ⟨"file:" ++ path, (loadFile files path).toOption.getD []⟩

/-- Files that can all be loaded yield their sources in order. -/
theorem loadFiles_eq {files : FileSystem} {paths : List String}
    (loads : ∀ path ∈ paths, (loadFile files path).toOption.isSome = true) :
    (loadFiles files paths).1 = .ok (paths.map (fileSource files)) := by
  induction paths with
  | nil => rfl
  | cons path rest inductionHypothesis =>
      obtain ⟨first, others⟩ := List.forall_mem_cons.mp loads
      cases loaded : loadFile files path with
      | error fault => simp [loaded, Except.toOption] at first
      | ok properties =>
          simp [loadFiles, fileSource, loaded, inductionHypothesis others, Except.map,
            Except.toOption]

/-! ### The layers of files -/

/-- The name of the layer of a file. -/
def layerName (path : String) : String :=
  Layer.servedName ("file:" ++ path)

theorem isUnseparated_extension {extension : String}
    (isExtension : extension ∈ DocumentFormat.extensions) : IsUnseparated ("." ++ extension) := by
  revert extension
  decide

theorem layerName_ne_overridesName (path : String) : layerName path ≠ Layer.overridesName := by
  refine Profile.servedName_ne_overridesName fun same => ?_
  have first := congrArg (fun text : String => text.toList.head?) same
  simp at first

theorem isUnseparated_layerName {path : String} (isUnseparated : IsUnseparated path) :
    IsUnseparated (layerName path) := by
  have beginning : IsUnseparated "configserver:" ∧ IsUnseparated "file:" := by decide
  exact isUnseparated_append.mpr
    ⟨beginning.1, isUnseparated_append.mpr ⟨beginning.2, isUnseparated⟩⟩

/-- The profile in the name of a file is as short as the name. -/
theorem length_le_of_isFile {files : FileSystem} {front profile extension : String}
    (isWord : Profile.IsWord profile) (isExtension : extension ∈ DocumentFormat.extensions)
    (isFile : files.isFile (front ++ (profile ++ ("." ++ extension))) = true) :
    profile.toList.length ≤ FileSystem.nameLimit := by
  obtain ⟨noSlash, notUp⟩ := extension_facts isExtension
  have noSlashBehind : '/' ∉ (profile ++ ("." ++ extension)).toList := by
    rw [String.toList_append, List.mem_append, not_or]
    exact ⟨fun slash => absurd (isWord.2 _ slash) (by decide), noSlash⟩
  obtain ⟨others, last, _, names⟩ := File.names_append_of_noSlash front noSlashBehind
  have isLast : last ++ (profile ++ ("." ++ extension)) ∈
      File.names (front ++ (profile ++ ("." ++ extension))) := by
    rw [names]
    exact List.mem_append_right _ List.mem_cons_self
  have length : profile.toList.length + 1 ≤
      (last ++ (profile ++ ("." ++ extension))).toList.length := by
    simp only [String.toList_append, List.length_append]
    have dot : (".").toList.length = 1 := by decide
    omega
  have someProfile : profile.toList.length ≠ 0 := by simpa using isWord.1
  have isProper := File.isProperName_of_long
    (show 1 < (last ++ (profile ++ ("." ++ extension))).toList.length by omega)
  have isNoStep : last ++ (profile ++ ("." ++ extension)) ≠ ".." := by
    rw [← String.append_assoc]
    exact notUp _
  have short := FileSystem.areShort_of_isFile isFile _ isLast isProper isNoStep
  exact Nat.le_trans (Nat.le_of_succ_le length) (Nat.le_trans (Utf8.length_le_encode _) short)

theorem isSpecific_fileSource (accepted : List String) (files : FileSystem) (path : String) :
    ConfigData.isSpecific accepted (fileSource files path) =
      (Profile.classify (layerName path) accepted == .profileSpecific) :=
  rfl

section Layers

variable {accepted : List String}
  (areWords : ∀ profile ∈ Profile.named accepted, Profile.IsWord profile)

include areWords

/-- The layer of a general file is for no word. -/
theorem classify_general {path : String} (isUnseparated : IsUnseparated path) :
    Profile.classify (layerName path) accepted = .general := by
  cases classified : Profile.classify (layerName path) accepted with
  | general => rfl
  | profileSpecific =>
      rcases (Profile.classify_eq_profileSpecific_iff areWords _).mp classified with
        isOverrides | ⟨profile, _, _, _, stands⟩
      · exact absurd isOverrides (layerName_ne_overridesName path)
      · exact absurd stands
          (Profile.not_standsIn_of_isUnseparated (isUnseparated_layerName isUnseparated))

/-- The layer of the file of an accepted profile is for that profile. -/
theorem classify_profile {files : FileSystem} {front profile extension : String}
    (isAccepted : profile ∈ Profile.named accepted)
    (isExtension : extension ∈ DocumentFormat.extensions) (oneLine : '\n' ∉ front.toList)
    (isFile : files.isFile (front ++ "-" ++ (profile ++ ("." ++ extension))) = true) :
    Profile.classify (layerName (front ++ "-" ++ (profile ++ ("." ++ extension)))) accepted =
      .profileSpecific := by
  have isWord := areWords profile isAccepted
  have short := length_le_of_isFile isWord isExtension isFile
  refine (Profile.classify_eq_profileSpecific_iff areWords _).mpr
    (.inr ⟨profile, isAccepted, ?_, ?_, ?_⟩)
  · exact Profile.makesPattern_of_isWord isWord
      (Nat.le_trans short (by decide : FileSystem.nameLimit ≤ 300000))
  · have behind := (Profile.isUnseparated_of_isWord isWord).oneLine
    have ending := (isUnseparated_append.mp (isUnseparated_extension isExtension)).2.oneLine
    simp [layerName, Layer.servedName, oneLine, behind, ending]
  · refine ⟨("configserver:file:" ++ front).toList, '-', ("." ++ extension).toList, ?_, .inl rfl, ?_⟩
    · simp [layerName, Layer.servedName]
    · have dot : ("." : String).toList = ['.'] := by decide
      have noWordChar : Unicode.isWordChar '.' = false := by decide
      rw [String.toList_append, dot]
      exact noWordChar

end Layers

/-! ### The directories of a query -/

theorem path_of_labelPath {label path : String} (accepted : labelPath label = .ok path) :
    path = Label.ofWire label := by
  unfold labelPath at accepted
  dsimp only at accepted
  split at accepted <;> cases accepted
  rfl

/-- Where locations and the label have no separators, neither has a directory that is searched. -/
theorem isUnseparated_directory {settings : NativeSettings} {files : FileSystem}
    {label : Option String} {directories : List String}
    (found : settings.directories files label = .ok directories)
    (locations : ∀ location ∈ settings.locations, IsUnseparated location)
    (labels : ∀ effective ∈ settings.effectiveLabel label, IsUnseparated effective) :
    ∀ directory ∈ directories, IsUnseparated directory := by
  unfold NativeSettings.directories at found
  split at found
  · cases found
    exact locations
  · rename_i effective isEffective
    obtain ⟨path, isPath, rfl⟩ := map_eq_ok found
    have isUnseparatedPath : IsUnseparated path := by
      intro character member
      rw [path_of_labelPath isPath] at member
      rcases Label.mem_of_mem_ofWire member with rfl | old
      · decide
      · exact labels effective isEffective character old
    intro directory member
    obtain ⟨location, isLocation, searched⟩ := List.mem_flatMap.mp member
    rcases List.mem_append.mp searched with labelled | bare
    · rw [Option.mem_toList, labelDirectory?] at labelled
      obtain ⟨_, same⟩ := Option.ite_none_right_eq_some.mp labelled
      rw [← Option.some.inj same]
      exact isUnseparated_join (locations location isLocation) isUnseparatedPath
    · rw [List.mem_singleton.mp bare]
      exact locations location isLocation

/-! ### From files to the client -/

/-- The profiles of a query are words, and separators stand neither in the names of its applications nor
in the paths that are searched. -/
structure IsPlain (settings : NativeSettings) (query : RepositoryQuery) : Prop where
  profiles : ∀ profile ∈ Text.splitList query.profile,
    Profile.IsWord profile ∧ profile ≠ ClientSettings.defaultProfile
  applications : ∀ name ∈ Text.splitList query.application,
    '-' ∉ name.toList ∧ '\n' ∉ name.toList
  locations : ∀ location ∈ settings.locations, IsUnseparated location
  label : ∀ label ∈ settings.effectiveLabel query.label, IsUnseparated label

section Plain

variable {settings : NativeSettings} {files : FileSystem} {query : RepositoryQuery}
  {directories : List String}

theorem IsPlain.areWords (isPlain : settings.IsPlain query) :
    ∀ profile ∈ Profile.named (Text.splitList query.profile), Profile.IsWord profile :=
  fun profile member => (isPlain.profiles profile (List.mem_filter.mp member).1).1

theorem IsPlain.isUnseparated_application (isPlain : settings.IsPlain query) :
    ∀ name ∈ applicationsOf query.application, IsUnseparated name := by
  intro name member
  rcases List.mem_append.mp member with asked | shared
  · have isAsked := List.mem_reverse.mp (List.mem_filter.mp asked).1
    obtain ⟨noHyphen, oneLine⟩ := isPlain.applications name isAsked
    have noComma := Text.not_mem_of_mem_splitList isAsked
    exact fun character inside => ⟨ne_of_mem_of_not_mem inside noHyphen,
      ne_of_mem_of_not_mem inside noComma, ne_of_mem_of_not_mem inside oneLine⟩
  · rw [List.mem_singleton.mp shared]
    decide

/-- The general files of a plain query are for none of its profiles. -/
theorem IsPlain.isSpecific_generalFile (isPlain : settings.IsPlain query)
    (found : settings.directories files query.label = .ok directories) {path : String}
    (isGeneral : path ∈ filesOf directories (applicationsOf query.application)) :
    ConfigData.isSpecific (Text.splitList query.profile) (fileSource files path) = false := by
  obtain ⟨name, isName, directory, searched, extension, isExtension, rfl⟩ := mem_filesOf.mp isGeneral
  have isDirectory :=
    isUnseparated_directory found isPlain.locations isPlain.label directory searched
  have isFileName : IsUnseparated (name ++ "." ++ extension) := by
    rw [String.append_assoc, isUnseparated_append]
    exact ⟨isPlain.isUnseparated_application name isName, isUnseparated_extension isExtension⟩
  rw [isSpecific_fileSource,
    classify_general isPlain.areWords (isUnseparated_join isDirectory isFileName)]
  rfl

/-- The existing files of the profiles of a plain query are each for one of them. -/
theorem IsPlain.isSpecific_profileFile (isPlain : settings.IsPlain query)
    (found : settings.directories files query.label = .ok directories)
    (someProfile : Text.splitList query.profile ≠ []) {path : String}
    (isProfileFile : path ∈ filesOf directories (profileStems query))
    (isFile : files.isFile path = true) :
    ConfigData.isSpecific (Text.splitList query.profile) (fileSource files path) = true := by
  obtain ⟨stem, isStem, directory, searched, extension, isExtension, rfl⟩ :=
    mem_filesOf.mp isProfileFile
  obtain ⟨profile, isProfile, inProfile⟩ := List.mem_flatMap.mp isStem
  obtain ⟨name, isName, rfl⟩ := List.mem_map.mp inProfile
  have isAsked := mem_of_mem_profilesOf someProfile isProfile
  have isAccepted : profile ∈ Profile.named (Text.splitList query.profile) :=
    List.mem_filter.mpr ⟨isAsked, by simpa using (isPlain.profiles profile isAsked).2⟩
  obtain ⟨front, joined, characters⟩ := File.exists_front_of_join directory
    (name ++ "-" ++ profile ++ "." ++ extension)
  have parts : front ++ (name ++ "-" ++ profile ++ "." ++ extension) =
      front ++ name ++ "-" ++ (profile ++ ("." ++ extension)) := by
    simp only [String.append_assoc]
  rw [joined, parts] at isFile ⊢
  have isFront : IsUnseparated front := by
    intro character member
    rcases characters character member with rfl | old
    · decide
    · exact isUnseparated_directory found isPlain.locations isPlain.label directory searched
        character old
  have oneLine : '\n' ∉ (front ++ name).toList :=
    (isUnseparated_append.mpr ⟨isFront, isPlain.isUnseparated_application name isName⟩).oneLine
  rw [isSpecific_fileSource, classify_profile isPlain.areWords isAccepted isExtension oneLine isFile]
  rfl

/-- Without profiles no file is for one. -/
theorem isSpecific_of_noProfile {accepted : List String} (noProfile : accepted = [])
    (files : FileSystem) (path : String) :
    ConfigData.isSpecific accepted (fileSource files path) = false := by
  subst noProfile
  have general : Profile.classify (layerName path) [] = .general := by
    simp [Profile.classify, Profile.classifyBy, Profile.patterns, Profile.named,
      layerName_ne_overridesName path]
  rw [isSpecific_fileSource, general]
  rfl

end Plain

/-- The value of a key in the first of the given files that exists and has the key. -/
def firstValue? (files : FileSystem) (key : String) (paths : List String) : Option Json :=
  (paths.filter files.isFile).findSome? fun path =>
    (loadFile files path).toOption.bind (Fields.get? key)

/-- Files hold leaves, which the client sees as they are. -/
theorem served?_fileSource (files : FileSystem) (key path : String) :
    ConfigData.served? key (fileSource files path) =
      ((loadFile files path).toOption.bind (Fields.get? key)).map PropertyValue.raw := by
  unfold ConfigData.served? fileSource loadFile
  cases Tree.loadFile? files path with
  | none => rfl
  | some tree =>
      dsimp only [Except.toOption, Option.getD_some, Option.bind_some]
      cases found : Fields.get? key (flatten tree.toJson) with
      | none => rfl
      | some value =>
          have isLeaf : value.IsLeaf := isLeaf_of_mem_flatten (Fields.mem_of_get? found)
          rw [Option.map_some, Option.map_some, PropertyValue.ofServed_of_isLeaf isLeaf]

/-- The answer with the sources of the files that exist. -/
def answerOf (settings : NativeSettings) (files : FileSystem) (query : RepositoryQuery)
    (candidates : List String) : Environment :=
  (query.emptyAnswer (query.label <|> settings.defaultLabel)).addAll
    ((candidates.filter files.isFile).map (fileSource files))

section Answers

variable {settings : NativeSettings} {files : FileSystem} {query : RepositoryQuery}
  {candidates : List String}

theorem find_of_loads {σ : Type} (listed : settings.candidateFiles files query = .ok candidates)
    (loads : ∀ path ∈ candidates, files.isFile path = true →
      (loadFile files path).toOption.isSome = true) (memory : σ) :
    ((settings.repository files).find query memory).outcome =
      .ok (answerOf settings files query candidates) := by
  have existing : ∀ path ∈ candidates.filter files.isFile,
      (loadFile files path).toOption.isSome = true := by
    intro path member
    obtain ⟨isCandidate, isFile⟩ := List.mem_filter.mp member
    exact loads path isCandidate isFile
  simp only [repository, environment, listed, loadFiles_eq existing, Except.map]
  rfl

/-- The sources of a plain query stand in the order in which the client looks properties up. -/
theorem get?_answerOf (isPlain : settings.IsPlain query)
    (listed : settings.candidateFiles files query = .ok candidates) (key : String) :
    (ConfigData.assemble (answerOf settings files query candidates)
        (Text.splitList query.profile)).get? key =
      (answerOf settings files query candidates).propertySources.findSome?
        (ConfigData.served? key) := by
  have noMarker : (ConfigData.markerLayer (answerOf settings files query candidates)).get? key =
      none := rfl
  obtain ⟨directories, found, ordered⟩ := candidateFiles_eq listed
  have sources : (answerOf settings files query candidates).propertySources =
      ((filesOf directories (profileStems query)).filter files.isFile).map (fileSource files) ++
        ((filesOf directories (applicationsOf query.application)).filter files.isFile).map
          (fileSource files) := by
    rw [← List.map_append, ← List.filter_append, ← ordered]
    rfl
  have general : ∀ source ∈ ((filesOf directories
      (applicationsOf query.application)).filter files.isFile).map (fileSource files),
        ConfigData.isSpecific (Text.splitList query.profile) source = false := by
    intro source member
    obtain ⟨path, isExisting, rfl⟩ := List.mem_map.mp member
    exact isPlain.isSpecific_generalFile found (List.mem_filter.mp isExisting).1
  by_cases someProfile : Text.splitList query.profile = []
  · -- The files of the profile that stands for none are searched first, but are for no profile.
    have noneSpecific : ∀ source ∈ (answerOf settings files query candidates).propertySources,
        ConfigData.isSpecific (Text.splitList query.profile) source = false := by
      intro source member
      obtain ⟨path, _, rfl⟩ := List.mem_map.mp member
      exact isSpecific_of_noProfile someProfile files path
    rw [ConfigData.get?_assemble_of_ordered (List.nil_append _).symm (by simp) noneSpecific,
      noMarker, Option.or_none]
  · have specific : ∀ source ∈ ((filesOf directories
        (profileStems query)).filter files.isFile).map (fileSource files),
          ConfigData.isSpecific (Text.splitList query.profile) source = true := by
      intro source member
      obtain ⟨path, isExisting, rfl⟩ := List.mem_map.mp member
      obtain ⟨isProfileFile, isFile⟩ := List.mem_filter.mp isExisting
      exact isPlain.isSpecific_profileFile found someProfile isProfileFile isFile
    rw [ConfigData.get?_assemble_of_ordered sources specific general, noMarker, Option.or_none]

end Answers

/-- For a plain query whose files can be loaded there is an answer, and the client finds each property
with the value of the first file that has it. -/
theorem precedence_fromFiles {σ : Type} {settings : NativeSettings} {files : FileSystem}
    {query : RepositoryQuery} {candidates : List String} (isPlain : settings.IsPlain query)
    (listed : settings.candidateFiles files query = .ok candidates)
    (loads : ∀ path ∈ candidates, files.isFile path = true →
      (loadFile files path).toOption.isSome = true) (memory : σ) :
    ∃ answer, ((settings.repository files).find query memory).outcome = .ok answer ∧
      ∀ key, (ConfigData.assemble answer (Text.splitList query.profile)).get? key =
        (firstValue? files key candidates).map PropertyValue.raw := by
  refine ⟨_, find_of_loads listed loads memory, fun key => ?_⟩
  have sources : (answerOf settings files query candidates).propertySources =
      (candidates.filter files.isFile).map (fileSource files) := rfl
  rw [get?_answerOf isPlain listed, sources, List.findSome?_map, firstValue?, List.map_findSome?]
  exact congrArg (fun look => List.findSome? look _)
    (funext fun path => served?_fileSource files key path)

/-- A file of a profile, and a general one of the same application. -/
def profileFiles : FileSystem :=
  ⟨[], [(["cfg"], .directory),
    (["cfg", "app-dev.json"], .file (Utf8.encode "\x7b\"a\":\"dev\"\x7d")),
    (["cfg", "app.json"], .file (Utf8.encode "\x7b\"a\":\"all\",\"b\":\"all\"\x7d"))]⟩

/-- The file of a profile wins over the general one, which is looked up behind it. -/
theorem precedence_fromFiles_profile :
    ∃ answer,
      ((oneLocation.repository profileFiles).find ⟨"app", "dev", none⟩ ()).outcome = .ok answer ∧
        ((ConfigData.assemble answer ["dev"]).get? "a").bind PropertyValue.asString? = some "dev" ∧
        ((ConfigData.assemble answer ["dev"]).get? "b").bind PropertyValue.asString? =
          some "all" := by
  have isPlain : oneLocation.IsPlain ⟨"app", "dev", none⟩ :=
    ⟨by decide +kernel, by decide +kernel, by decide, by decide⟩
  have listed : oneLocation.candidateFiles profileFiles ⟨"app", "dev", none⟩ = .ok _ := rfl
  obtain ⟨answer, answered, first⟩ := precedence_fromFiles isPlain listed (by decide +kernel) ()
  have asked : Text.splitList "dev" = ["dev"] := by decide +kernel
  rw [asked] at first
  refine ⟨answer, answered, ?_, ?_⟩
  · rw [first "a"]
    decide +kernel
  · rw [first "b"]
    decide +kernel

/-- Two files of one profile; a line end stands in the name of the application that is asked for. -/
def brokenFiles : FileSystem :=
  ⟨[], [(["cfg"], .directory),
    (["cfg", "a\nb-dev.json"], .file (Utf8.encode "\x7b\"k\":\"own\"\x7d")),
    (["cfg", "application-dev.json"], .file (Utf8.encode "\x7b\"k\":\"shared\"\x7d"))]⟩

/-- The layer of a file with a line end in front of its profile is a general one, so the client finds
the value of a later file. -/
theorem precedence_lostByLineEnd :
    ∃ candidates answer,
      (∀ profile ∈ Text.splitList "dev",
        Profile.IsWord profile ∧ profile ≠ ClientSettings.defaultProfile) ∧
      (∀ name ∈ Text.splitList "a\nb", '-' ∉ name.toList) ∧
      (∀ location ∈ oneLocation.locations, IsUnseparated location) ∧
      oneLocation.effectiveLabel none = none ∧
      oneLocation.candidateFiles brokenFiles ⟨"a\nb", "dev", none⟩ = .ok candidates ∧
      ((oneLocation.repository brokenFiles).find ⟨"a\nb", "dev", none⟩ ()).outcome = .ok answer ∧
      (firstValue? brokenFiles "k" candidates).bind Json.asString? = some "own" ∧
      ((ConfigData.assemble answer (Text.splitList "dev")).get? "k").bind PropertyValue.asString? =
        some "shared" := by
  have listed : oneLocation.candidateFiles brokenFiles ⟨"a\nb", "dev", none⟩ = .ok _ := rfl
  exact ⟨_, _, by decide +kernel, by decide +kernel, by decide, by decide, listed,
    find_of_loads listed (by decide +kernel) (), by decide +kernel, by decide +kernel⟩

end NativeSettings

end RemoteConfig
