import RemoteConfig.Proofs.Client.ProfileWords
import RemoteConfig.Proofs.Client.Search
import RemoteConfig.Proofs.Client.ServerOrder
import RemoteConfig.Proofs.Outcome
import RemoteConfig.Proofs.Text.ListEntries

/-!
Contract: the configured profiles of a client next to accepted ones of the same names.

Owns:
- the configuration of an environment without accepted profiles, next to the one with some;
- `resolution_configuredProfiles`: configured profiles are asked for as accepted ones are, and the same
  layers come of it, but only accepted profiles put layers in front of others.

Does not own: which names of layers a profile stands in.
-/

namespace RemoteConfig

/-! ### The profiles that are asked for -/

namespace ConfigResource

/-- The same resource under other accepted profiles. -/
def accepting (resource : ConfigResource) (names : List String) : ConfigResource :=
  { resource with acceptedProfiles := names }

/-- A list of configured profiles is asked for as if its names were accepted. -/
theorem profiles_accepting {resource : ConfigResource} {names : List String}
    (joined : resource.settings.profile = Text.join "," names)
    (trimmed : ∀ name ∈ names, Text.IsTrimmed name) :
    (resource.accepting names).profiles = (resource.accepting []).profiles := by
  cases names with
  | nil => rfl
  | cons first others =>
      obtain ⟨some, isTrimmed⟩ : Text.IsTrimmed (Text.join "," (first :: others)) :=
        Text.isTrimmed_join (List.cons_ne_nil first others) trimmed
      have configured : (resource.accepting []).profiles = Text.join "," (first :: others) := by
        simp [profiles, accepting, joined, isTrimmed, some]
      rw [configured]
      rfl

end ConfigResource

namespace Walk

variable {resource : ConfigResource} {first second : List String}

/-- A search depends on the accepted profiles only through those that it asks for. -/
theorem locate_accepting
    (same : (resource.accepting first).profiles = (resource.accepting second).profiles)
    (transport : Transport) (context : LoadContext) (history : List ConfigRequest) :
    Resolve.locate transport (resource.accepting first) context history =
      Resolve.locate transport (resource.accepting second) context history := by
  unfold Resolve.locate
  rw [same]
  rfl

end Walk

/-! ### One environment under two lists of profiles -/

namespace Profile

/-- Without accepted profiles, only fixed properties are no general layer. -/
theorem classify_nil (layer : String) :
    classify layer [] = .profileSpecific ↔ layer = Layer.overridesName := by
  rw [classify_eq_profileSpecific_iff_occurs]
  simp [named]

/-- Accepted profiles leave the precedence of a layer alone unless it is for one of them and holds no
fixed properties. -/
theorem classify_nil_eq_iff {layer : String} {accepted : List String} :
    classify layer [] = classify layer accepted ↔
      (classify layer accepted = .profileSpecific → layer = Layer.overridesName) := by
  constructor
  · intro same isSpecific
    rwa [← same, classify_nil] at isSpecific
  · intro onlyFixed
    cases within : classify layer accepted with
    | profileSpecific => exact (classify_nil layer).mpr (onlyFixed within)
    | general =>
        cases without : classify layer [] with
        | general => rfl
        | profileSpecific =>
            cases within.symm.trans (classify_mono (List.nil_subset accepted) without)

end Profile

namespace ConfigData

/-- What the configuration of an environment is without accepted profiles, next to what it is with
some. -/
structure DifferInPrecedence (environment : Environment) (accepted : List String) : Prop where
  /-- The layers are the same, in the same order, but for their precedence. -/
  layers : (assemble environment []).layers.map (fun layer => (layer.name, layer.properties)) =
    (assemble environment accepted).layers.map fun layer => (layer.name, layer.properties)
  /-- Without accepted profiles, only fixed properties are in front of general layers. -/
  general : ∀ layer ∈ (assemble environment []).layers,
    layer.precedence = .profileSpecific ↔ layer.name = Layer.overridesName
  /-- The configurations are the same exactly when no other layer is for one of the profiles. -/
  same_iff : assemble environment [] = assemble environment accepted ↔
    ∀ layer ∈ (assemble environment accepted).layers,
      layer.precedence = .profileSpecific → layer.name = Layer.overridesName
  /-- A key is answered alike unless the first source for a profile that defines it stands behind
  another one that does, or in front of fixed properties that do. -/
  lookup : ∀ key,
    (∀ source,
      IsFirst (fun other => isSpecific accepted other = true ∧ Defines key other)
        environment.propertySources source →
      Layer.servedName source.name = Layer.overridesName ∨
        IsFirst (Defines key) environment.propertySources source ∧
          ∀ other ∈ environment.propertySources,
            Layer.servedName other.name = Layer.overridesName → ¬ Defines key other) →
    (assemble environment []).get? key = (assemble environment accepted).get? key
  state : (assemble environment []).state? = (assemble environment accepted).state?
  version : (assemble environment []).version? = (assemble environment accepted).version?

section Precedence

variable {environment : Environment} {accepted : List String} {key : String}

theorem isSpecific_nil_iff {source : PropertySource} :
    isSpecific [] source = true ↔ Layer.servedName source.name = Layer.overridesName := by
  rw [isSpecific, beq_iff_eq, Profile.classify_nil]

/-- What is in front of general layers stays so when profiles are accepted. -/
theorem isSpecific_of_nil {source : PropertySource} (isSpecificAnyway : isSpecific [] source = true) :
    isSpecific accepted source = true := by
  rw [isSpecific, beq_iff_eq] at isSpecificAnyway ⊢
  exact Profile.classify_mono (List.nil_subset accepted) isSpecificAnyway

/-- Fixed properties that are the first source for a profile to define a key are so without accepted
profiles, too. -/
theorem isFirst_nil {sources : List PropertySource} {source : PropertySource}
    (first : IsFirst (fun other => isSpecific accepted other = true ∧ Defines key other) sources source)
    (isFixed : Layer.servedName source.name = Layer.overridesName) :
    IsFirst (fun other => isSpecific [] other = true ∧ Defines key other) sources source := by
  obtain ⟨front, behind, listed, ⟨_, defines⟩, before⟩ := first
  refine ⟨front, behind, listed, ⟨isSpecific_nil_iff.mpr isFixed, defines⟩, ?_⟩
  rintro other inFront ⟨isSpecific, otherDefines⟩
  exact before other inFront ⟨isSpecific_of_nil isSpecific, otherDefines⟩

/-- Sources that are left out and silent anyway are not missed. -/
theorem findSome?_filter_not {test : PropertySource → Bool} {sources : List PropertySource}
    (silent : ∀ source ∈ sources, test source = true → served? key source = none) :
    (sources.filter fun source => !test source).findSome? (served? key) =
      sources.findSome? (served? key) := by
  induction sources with
  | nil => rfl
  | cons first others inductionHypothesis =>
      obtain ⟨firstSilent, othersSilent⟩ := List.forall_mem_cons.mp silent
      cases meets : test first with
      | false => simp [meets, List.findSome?_cons, inductionHypothesis othersSilent]
      | true => simp [meets, firstSilent meets, inductionHypothesis othersSilent]

/-- A key is looked up in the sources for a profile, and if these are silent in all sources. -/
theorem get?_assemble_eq_or :
    (assemble environment accepted).get? key =
      (((environment.propertySources.filter (isSpecific accepted)).findSome? (served? key)).or
        (environment.propertySources.findSome? (served? key))).or
          ((markerLayer environment).get? key) := by
  rw [get?_assemble, List.findSome?_append]
  congr 1
  cases answered : (environment.propertySources.filter (isSpecific accepted)).findSome?
      (served? key) with
  | some value => rfl
  | none =>
      rw [List.findSome?_eq_none_iff] at answered
      rw [findSome?_filter_not fun source member isSpecific =>
        answered source (List.mem_filter.mpr ⟨member, isSpecific⟩)]

theorem mem_layers_assemble {layer : Layer} :
    layer ∈ (assemble environment accepted).layers ↔
      layer = markerLayer environment ∨
        ∃ source ∈ environment.propertySources,
          servedLayer (Profile.patterns accepted) source = layer := by
  simp [assemble]

theorem assemble_nil_eq_iff :
    assemble environment [] = assemble environment accepted ↔
      ∀ layer ∈ (assemble environment accepted).layers,
        layer.precedence = .profileSpecific → layer.name = Layer.overridesName := by
  have sourceBySource : assemble environment [] = assemble environment accepted ↔
      ∀ source ∈ environment.propertySources,
        Profile.classify (Layer.servedName source.name) [] =
          Profile.classify (Layer.servedName source.name) accepted := by
    simp [assemble, servedLayer, Profile.classify]
  simp only [sourceBySource, Profile.classify_nil_eq_iff]
  constructor
  · intro onlyFixed layer member isSpecific
    rcases mem_layers_assemble.mp member with rfl | ⟨source, served, rfl⟩
    · cases isSpecific
    · exact onlyFixed source served isSpecific
  · intro onlyFixed source served isSpecific
    exact onlyFixed _ (mem_layers_assemble.mpr (.inr ⟨source, served, rfl⟩)) isSpecific

/-- A key is answered alike without accepted profiles unless the first source for a profile that defines
it stands behind another one that does, or in front of fixed properties that do. -/
theorem get?_assemble_nil_eq
    (firsts : ∀ source,
      IsFirst (fun other => isSpecific accepted other = true ∧ Defines key other)
        environment.propertySources source →
      Layer.servedName source.name = Layer.overridesName ∨
        IsFirst (Defines key) environment.propertySources source ∧
          ∀ other ∈ environment.propertySources,
            Layer.servedName other.name = Layer.overridesName → ¬ Defines key other) :
    (assemble environment []).get? key = (assemble environment accepted).get? key := by
  rw [get?_assemble_eq_or, get?_assemble_eq_or]
  by_cases defined : ∃ source ∈ environment.propertySources,
      isSpecific accepted source = true ∧ Defines key source
  · obtain ⟨source, first⟩ := exists_isFirst defined
    obtain ⟨value, answers, found⟩ := findSome?_filter_of_isFirst first
    rcases firsts source first with isFixed | ⟨inFront, noFixed⟩
    · obtain ⟨same, answersToo, foundToo⟩ :=
        findSome?_filter_of_isFirst (isFirst_nil first isFixed)
      rw [found, foundToo, ← answers, ← answersToo]
    · rw [found, findSome?_of_isFirst inFront, answers,
        findSome?_filter_eq_none fun other member isSpecific =>
          noFixed other member (isSpecific_nil_iff.mp isSpecific)]
      rfl
  · have silent : ∀ other ∈ environment.propertySources,
        isSpecific accepted other = true → ¬ Defines key other :=
      fun other member isSpecific defines => defined ⟨other, member, isSpecific, defines⟩
    rw [findSome?_filter_eq_none silent,
      findSome?_filter_eq_none fun other member isSpecific =>
        silent other member (isSpecific_of_nil isSpecific)]

/-- Without accepted profiles an environment has the same layers as with some; they differ in their
precedence, and with it in the answers for keys that a source for a profile defines. -/
theorem differInPrecedence (environment : Environment) (accepted : List String) :
    DifferInPrecedence environment accepted where
  layers := by
    simp [assemble, servedLayer]
  general := by
    intro layer member
    rcases mem_layers_assemble.mp member with rfl | ⟨source, _, rfl⟩
    · exact iff_of_false Precedence.noConfusion (servedName_ne_markerName _).symm
    · exact Profile.classify_nil _
  same_iff := assemble_nil_eq_iff
  lookup _ := get?_assemble_nil_eq
  state := by
    rw [state?, state?, (markerText?_assemble environment _).1, (markerText?_assemble environment _).1]
  version := by
    rw [version?, version?, (markerText?_assemble environment _).2,
      (markerText?_assemble environment _).2]

end Precedence

end ConfigData

/-! ### Two resolutions -/

/-- How a resolution without accepted profiles ends, next to one that accepts some. -/
inductive Walk.EndAlike (accepted : List String) :
    Except ConfigError (Option ConfigData) → Except ConfigError (Option ConfigData) → Prop
  /-- Without a located environment both end in the same way. -/
  | unresolved {outcome : Except ConfigError (Option ConfigData)}
    (isNone : ∀ data, outcome ≠ .ok (some data)) : EndAlike accepted outcome outcome
  /-- Otherwise both have located the same environment, and show the same layers of it. -/
  | located {environment : Environment}
    (differ : ConfigData.DifferInPrecedence environment accepted) :
    EndAlike accepted (.ok (some (.assemble environment [])))
      (.ok (some (.assemble environment accepted)))

/-- A resolution with configured profiles and no accepted ones makes the requests of one that accepts
their names, and ends alike: without a result in the same way, and otherwise with the same layers,
which differ in their precedence only. -/
theorem Walk.resolution_configuredProfiles (loader : Loader) (history : List ConfigRequest)
    (context : LoadContext) {resource : ConfigResource} {names : List String}
    (joined : resource.settings.profile = Text.join "," names)
    (trimmed : ∀ name ∈ names, Text.IsTrimmed name) :
    (loader.resolve history ⟨resource.accepting [], context⟩).requests =
        (loader.resolve history ⟨resource.accepting names, context⟩).requests ∧
      EndAlike names (loader.resolve history ⟨resource.accepting [], context⟩).outcome
        (loader.resolve history ⟨resource.accepting names, context⟩).outcome := by
  have sameSearch :=
    locate_accepting (ConfigResource.profiles_accepting joined trimmed) loader.transport context history
  simp only [loader.resolve_requests, loader.resolve_outcome, sameSearch, true_and]
  -- Whether a result is insisted on has nothing to do with the accepted profiles.
  cases (Resolve.locate loader.transport (resource.accepting []) context history).outcome with
  | error error => exact .unresolved (Resolve.giveUp_ne_some _ _)
  | ok found =>
      cases found with
      | none => exact .unresolved (Resolve.giveUp_ne_some _ _)
      | some environment => exact .located (ConfigData.differInPrecedence environment names)

namespace Walk

/-- A server that puts a general source in front of one for a profile. -/
def generalFirst : Loader :=
  ⟨fun _ => .ok ⟨200, none, "\x7b\"name\":\"application\",\"profiles\":[],\"propertySources\":["
    ++ "\x7b\"name\":\"file:app.yml\",\"source\":\x7b\"k\":\"base\"\x7d\x7d,"
    ++ "\x7b\"name\":\"file:app-dev.yml\",\"source\":\x7b\"k\":\"dev\"\x7d\x7d]\x7d"⟩, false, []⟩

/-- A resource with one server and a configured profile. -/
def configured (profile : String) : ConfigResource :=
  .required { ClientSettings.defaults with uris := ["http://[::1]"], profile } []

/-- What that server's environment becomes for that resource under accepted profiles. -/
def resolved (profile : String) (accepted : List String) : Except ConfigError (Option ConfigData) :=
  (generalFirst.resolve [] ⟨(configured profile).accepting accepted, ⟨none, none⟩⟩).outcome

/-- Two configured profiles, and one environment that differs in the precedence of its layers. -/
theorem resolution_configuredProfiles_two :
    (configured "dev,eu").settings.profile = Text.join "," ["dev", "eu"] ∧
      (∀ name ∈ ["dev", "eu"], Text.IsTrimmed name) ∧
      ∃ environment, resolved "dev,eu" [] = .ok (some (.assemble environment [])) ∧
        resolved "dev,eu" ["dev", "eu"] = .ok (some (.assemble environment ["dev", "eu"])) ∧
        ConfigData.DifferInPrecedence environment ["dev", "eu"] := by
  have joined : (configured "dev,eu").settings.profile = Text.join "," ["dev", "eu"] := by decide
  have trimmed : ∀ name ∈ ["dev", "eu"], Text.IsTrimmed name := by decide
  have found : (resolved "dev,eu" []).toOption.join.isSome = true := by decide +kernel
  have alike : EndAlike ["dev", "eu"] (resolved "dev,eu" []) (resolved "dev,eu" ["dev", "eu"]) :=
    (resolution_configuredProfiles generalFirst [] ⟨none, none⟩ joined trimmed).2
  refine ⟨joined, trimmed, ?_⟩
  obtain ⟨data, isData⟩ := Option.isSome_iff_exists.mp found
  have succeeds := eq_ok_of_toOption (Option.join_eq_some_iff.mp isData)
  generalize resolved "dev,eu" [] = without, resolved "dev,eu" ["dev", "eu"] = within
    at alike succeeds
  cases alike with
  | located differ => exact ⟨_, rfl, rfl, differ⟩
  | unresolved isNone => exact absurd succeeds (isNone data)

/-- The layer for a configured profile is a general one unless the profile is accepted, and a key has the
value in the layer in front of it. -/
theorem configuredProfiles_notApplied :
    (configured "dev").settings.profile = Text.join "," ["dev"] ∧
      (∀ name ∈ ["dev"], Text.IsTrimmed name ∧ ',' ∉ name.toList) ∧
      (resolved "dev" []).toOption.join.map (fun data => data.layers.map Layer.precedence) =
        some [.general, .general, .general] ∧
      (resolved "dev" ["dev"]).toOption.join.map (fun data => data.layers.map Layer.precedence) =
        some [.general, .profileSpecific, .general] ∧
      ((resolved "dev" []).toOption.join.bind fun data => data.get? "k").bind
        PropertyValue.asString? = some "base" ∧
      ((resolved "dev" ["dev"]).toOption.join.bind fun data => data.get? "k").bind
        PropertyValue.asString? = some "dev" := by
  decide +kernel

end Walk

end RemoteConfig
