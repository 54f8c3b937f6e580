import RemoteConfig.Proofs.Client.Lookup

/-!
Contract: the layers of an environment and what is looked up in them, told by the order of the server.

Owns:
- the first source that meets a condition, and looking a key up in the sources that meet one first;
- what the layer that marks a success answers;
- `assemble_keepsServerOrder`: layers, lookups, state and version of an environment.

Does not own: which sources are for a profile.
-/

namespace RemoteConfig.ConfigData

/-- A source has a value for a key. -/
def Defines (key : String) (source : PropertySource) : Prop :=
  Fields.get? key source.source ≠ none

/-- A source meets a condition, and no source in front of it does. -/
def IsFirst (condition : PropertySource → Prop) (sources : List PropertySource)
    (source : PropertySource) : Prop :=
  ∃ front behind, sources = front ++ source :: behind ∧ condition source ∧
    ∀ other ∈ front, ¬ condition other

/-- What the layer that marks a success answers: state and version, where they have text. -/
def markerValue? (environment : Environment) (key : String) : Option PropertyValue :=
  let text :=
    if key = Layer.stateKey then Text.nonBlank environment.state
    else if key = Layer.versionKey then Text.nonBlank environment.version
    else none
  text.map fun text => .raw (.string text)

/-- Configuration that shows an environment in the order of its server. -/
structure KeepsServerOrder (environment : Environment) (accepted : List String)
    (data : ConfigData) : Prop where
  /-- A key that sources for a profile define has the value in the first of them. -/
  specific : ∀ key source,
    IsFirst (fun other => isSpecific accepted other = true ∧ Defines key other)
      environment.propertySources source →
    data.get? key = served? key source
  /-- Any other key that general sources define has the value in the first of these. -/
  general : ∀ key source,
    (∀ other ∈ environment.propertySources, isSpecific accepted other = true →
      ¬ Defines key other) →
    IsFirst (fun other => isSpecific accepted other = false ∧ Defines key other)
      environment.propertySources source →
    data.get? key = served? key source
  /-- A key that no source defines is answered by the marker. -/
  marker : ∀ key, (∀ other ∈ environment.propertySources, ¬ Defines key other) →
    data.get? key = markerValue? environment key
  /-- From the highest priority down, the layers are those of the sources, each once and in order, and
  behind them the marker. -/
  listed : ∃ marker : Layer,
    data.byPrecedence = (environment.propertySources.map fun source =>
        ⟨Layer.servedName source.name, source.tracked,
          Profile.classify (Layer.servedName source.name) accepted⟩) ++ [marker] ∧
      marker.name = Layer.markerName ∧ marker.precedence = .general ∧
      ∀ key, marker.get? key = markerValue? environment key
  state : data.state? = Text.nonBlank environment.state
  version : data.version? = Text.nonBlank environment.version

/-! ### The first source -/

section First

variable {condition : PropertySource → Prop} {sources : List PropertySource}
  {source : PropertySource} {key : String}

theorem exists_isFirst (some : ∃ source ∈ sources, condition source) :
    ∃ source, IsFirst condition sources source := by
  induction sources with
  | nil =>
      obtain ⟨_, isNone, _⟩ := some
      cases isNone
  | cons first others inductionHypothesis =>
      by_cases meets : condition first
      · exact ⟨first, [], others, rfl, meets, by simp⟩
      · obtain ⟨source, member, sourceMeets⟩ := some
        rcases List.mem_cons.mp member with rfl | later
        · exact absurd sourceMeets meets
        · obtain ⟨found, front, behind, rfl, foundMeets, before⟩ :=
            inductionHypothesis ⟨source, later, sourceMeets⟩
          exact ⟨found, first :: front, behind, rfl, foundMeets,
            List.forall_mem_cons.mpr ⟨meets, before⟩⟩

theorem served?_eq_none_iff : served? key source = none ↔ ¬ Defines key source := by
  simp [served?, Defines]

theorem exists_served? (defines : Defines key source) : ∃ value, served? key source = some value :=
  Option.ne_none_iff_exists'.mp fun silent => served?_eq_none_iff.mp silent defines

/-- The first source that defines a key answers for all of them. -/
theorem findSome?_of_isFirst (first : IsFirst (Defines key) sources source) :
    sources.findSome? (served? key) = served? key source := by
  obtain ⟨front, behind, rfl, defines, before⟩ := first
  obtain ⟨value, answers⟩ := exists_served? defines
  have silent : front.findSome? (served? key) = none :=
    List.findSome?_eq_none_iff.mpr fun other inFront => served?_eq_none_iff.mpr (before other inFront)
  rw [List.findSome?_append, silent, List.findSome?_cons, answers]
  rfl

/-- The first source that meets a test and a condition is the first one with the condition among those
that meet the test. -/
theorem IsFirst.filter {test : PropertySource → Bool}
    (first : IsFirst (fun other => test other = true ∧ condition other) sources source) :
    IsFirst condition (sources.filter test) source := by
  obtain ⟨front, behind, rfl, ⟨meets, holds⟩, before⟩ := first
  refine ⟨front.filter test, behind.filter test, ?_, holds, ?_⟩
  · rw [List.filter_append, List.filter_cons_of_pos meets]
  · intro other member otherHolds
    obtain ⟨inFront, otherMeets⟩ := List.mem_filter.mp member
    exact before other inFront ⟨otherMeets, otherHolds⟩

/-- The first source that meets a test and defines a key answers for all sources that meet the test. -/
theorem findSome?_filter_of_isFirst {test : PropertySource → Bool}
    (first : IsFirst (fun other => test other = true ∧ Defines key other) sources source) :
    ∃ value, served? key source = some value ∧
      (sources.filter test).findSome? (served? key) = some value := by
  have answer := findSome?_of_isFirst first.filter
  obtain ⟨_, _, _, ⟨_, defines⟩, _⟩ := first
  obtain ⟨value, answers⟩ := exists_served? defines
  exact ⟨value, answers, answer.trans answers⟩

/-- Sources that meet a test and define nothing under a key answer nothing. -/
theorem findSome?_filter_eq_none {test : PropertySource → Bool}
    (silent : ∀ other ∈ sources, test other = true → ¬ Defines key other) :
    (sources.filter test).findSome? (served? key) = none := by
  rw [List.findSome?_eq_none_iff]
  intro other member
  obtain ⟨among, meets⟩ := List.mem_filter.mp member
  exact served?_eq_none_iff.mpr (silent other among meets)

end First

/-! ### The marker -/

theorem get?_optionalField (name key : String) (text : Option String) :
    Fields.get? key (text.toList.map fun text => (name, PropertyValue.raw (.string text))) =
      if key = name then text.map fun text => .raw (.string text) else none := by
  cases text with
  | none => simp [Fields.get?]
  | some text =>
      rw [Option.toList_some, List.map_singleton, Fields.get?_cons]
      rfl

theorem get?_markerLayer (environment : Environment) (key : String) :
    (markerLayer environment).get? key = markerValue? environment key := by
  have different : Layer.stateKey ≠ Layer.versionKey := by decide
  have parts : (markerLayer environment).get? key =
      (if key = Layer.stateKey then (Text.nonBlank environment.state).map fun text =>
          PropertyValue.raw (.string text) else none).or
        (if key = Layer.versionKey then (Text.nonBlank environment.version).map fun text =>
          .raw (.string text) else none) := by
    rw [← get?_optionalField, ← get?_optionalField]
    exact List.lookup_append
  rw [parts, markerValue?]
  by_cases isState : key = Layer.stateKey
  · simp [isState, different]
  · simp only [isState, if_false, Option.none_or]
    split <;> rfl

/-- From the highest priority down, the layers of an environment are those of its sources and the
marker. -/
theorem byPrecedence_assemble (environment : Environment) (accepted : List String) :
    (assemble environment accepted).byPrecedence =
      environment.propertySources.map (servedLayer (Profile.patterns accepted)) ++
        [markerLayer environment] := by
  simp [assemble, byPrecedence]

/-- The configuration of an environment shows its sources in the order of the server: a key has the
value in the first source for a profile that defines it, otherwise in the first general one, otherwise
in the marker, and the marker says nothing but the state and the version of the environment itself. -/
theorem assemble_keepsServerOrder (environment : Environment) (accepted : List String) :
    KeepsServerOrder environment accepted (assemble environment accepted) where
  specific key source first := by
    obtain ⟨value, answers, found⟩ := findSome?_filter_of_isFirst first
    rw [get?_assemble, List.findSome?_append, found, answers]
    rfl
  general key source silent first := by
    have isFirst : IsFirst (fun other => (!isSpecific accepted other) = true ∧ Defines key other)
        environment.propertySources source := by
      simpa only [Bool.not_eq_true'] using first
    obtain ⟨value, answers, found⟩ := findSome?_filter_of_isFirst isFirst
    rw [get?_assemble, List.findSome?_append, findSome?_filter_eq_none silent, found, answers]
    rfl
  marker key silent := by
    rw [get?_assemble, List.findSome?_append,
      findSome?_filter_eq_none fun other member _ => silent other member,
      findSome?_filter_eq_none fun other member _ => silent other member, get?_markerLayer]
    rfl
  listed :=
    ⟨markerLayer environment, byPrecedence_assemble environment accepted, rfl, rfl,
      get?_markerLayer environment⟩
  state := (markerText?_assemble environment accepted).1
  version := (markerText?_assemble environment accepted).2

/-- A source that imitates the marker, name and key, leaves the state alone. -/
example :
    (assemble ⟨"app", [], none, none, some "s1",
        [⟨Layer.markerName, [(Layer.stateKey, .string "imitated")]⟩]⟩ []).state? = some "s1" := by
  decide +kernel

end RemoteConfig.ConfigData
