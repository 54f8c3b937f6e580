import Mathlib.Data.List.Basic
import RemoteConfig.Proofs.Client.Lookup
import RemoteConfig.Proofs.Json.Canonical
import RemoteConfig.Repository.Overrides

/-!
Contract: fixed properties in front of another repository, seen from the client.

Owns:
- the served values that are pairs of value and origin, and what becomes of those and of others;
- the layer that a source in front of all others becomes;
- a layer for a profile on top of others: its keys win, and all other keys are looked up below it;
- `overrides_win`: the keys of the fixed properties, and only they, are answered by them.

Does not own: what the other repository answers.
-/

namespace RemoteConfig

namespace PropertyValue

/-- An object with the fields `origin` and `value`, in either order, and no others. -/
def IsPair (served value locator : Json) : Prop :=
  served = .object [("origin", locator), ("value", value)] ∨
    served = .object [("value", value), ("origin", locator)]

/-- Two fields among which both names are found are a pair. -/
theorem isPair_of_get? {fields : Json.Fields} {value locator : Json} (two : fields.length = 2)
    (hasOrigin : Fields.get? "origin" fields = some locator)
    (hasValue : Fields.get? "value" fields = some value) :
    IsPair (.object fields) value locator := by
  obtain ⟨first, second, rfl⟩ := List.length_eq_two.mp two
  have originInside := Fields.mem_of_get? hasOrigin
  have valueInside := Fields.mem_of_get? hasValue
  simp only [List.mem_cons, List.not_mem_nil, or_false] at originInside valueInside
  rcases originInside with rfl | rfl
  · rcases valueInside with same | rfl
    · exact absurd (congrArg Prod.fst same) (by decide : "value" ≠ "origin")
    · exact .inl rfl
  · rcases valueInside with rfl | same
    · exact .inr rfl
    · exact absurd (congrArg Prod.fst same) (by decide : "value" ≠ "origin")

/-- The value of a pair is tracked back to its origin in the source that served it. -/
theorem ofServed_of_isPair {served value locator : Json} (isPair : IsPair served value locator)
    (sourceName : String) : ofServed sourceName served = .tracked value ⟨sourceName, locator⟩ := by
  rcases isPair with rfl | rfl <;> rfl

/-- What is no pair is a value by itself. -/
theorem ofServed_of_not_isPair {served : Json}
    (noPair : ∀ value locator, ¬ IsPair served value locator) (sourceName : String) :
    ofServed sourceName served = .raw served := by
  unfold ofServed
  split
  · split
    · rename_i two hasOrigin hasValue
      exact absurd (isPair_of_get? (beq_iff_eq.mp two) hasOrigin hasValue) (noPair _ _)
    · rfl
  · rfl

end PropertyValue

namespace ConfigData

/-- A source in front of all others becomes the last layer, behind those that were there. -/
theorem layers_assemble_addFirst (environment : Environment) (source : PropertySource)
    (accepted : List String) :
    (assemble (environment.addFirst source) accepted).layers =
      (assemble environment accepted).layers ++
        [servedLayer (Profile.patterns accepted) source] := by
  have sameMarker : markerLayer (environment.addFirst source) = markerLayer environment := rfl
  simp [assemble, Environment.addFirst, ← sameMarker]

/-- A key of a last layer for a profile is looked up there, and any other key in the layers before. -/
theorem get?_of_layers_append {data below : ConfigData} {top : Layer}
    (layers : data.layers = below.layers ++ [top]) (specific : top.isProfileSpecific = true)
    (key : String) : data.get? key = (top.get? key).or (below.get? key) := by
  simp only [get?, byPrecedence, layers, List.reverse_append, List.reverse_singleton,
    List.filter_cons_of_pos specific, List.cons_append, List.findSome?_cons]
  rw [List.filter_cons_of_neg (by simp [specific])]
  cases top.get? key <;> rfl

/-- A last layer of another name leaves the layer that is found under a name alone. -/
theorem layer?_of_layers_append {data below : ConfigData} {top : Layer} {name : String}
    (layers : data.layers = below.layers ++ [top]) (different : top.name ≠ name) :
    data.layer? name = below.layer? name := by
  have unequal : (top.name == name) = false := by simpa using different
  simp [layer?, layers, List.find?_append, unequal]

end ConfigData

namespace Repository

variable {σ : Type}

/-- The layer of fixed properties counts before all general layers, whatever profiles are accepted. -/
theorem isProfileSpecific_overrides (patterns : List Pattern) (properties : Json.Fields) :
    (ConfigData.servedLayer patterns ⟨overridesName, properties⟩).isProfileSpecific = true := by
  have isOverrides : Layer.servedName overridesName = Layer.overridesName := rfl
  simp [ConfigData.servedLayer, Layer.isProfileSpecific, Profile.classifyBy, isOverrides]

/-- Every key of fixed properties is answered by them, and every other key by the layers of the
environment that they were put in front of. -/
theorem get?_assemble_overridden (properties : Json.Fields) (environment : Environment)
    (accepted : List String) (key : String) :
    (ConfigData.assemble (overridden properties environment) accepted).get? key =
      match Fields.get? key properties with
      | some value => some (.ofServed overridesName value)
      | none => (ConfigData.assemble environment accepted).get? key := by
  cases properties with
  | nil => rfl
  | cons property rest =>
      have isFirst : overridden (property :: rest) environment =
          environment.addFirst ⟨overridesName, property :: rest⟩ := rfl
      rw [isFirst, ConfigData.get?_of_layers_append
        (ConfigData.layers_assemble_addFirst environment _ accepted)
        (isProfileSpecific_overrides _ _), ConfigData.get?_servedLayer, ConfigData.served?]
      cases Fields.get? key (property :: rest) <;> rfl

/-- Fixed properties leave the text in the layer that marks a success alone. -/
theorem markerText?_assemble_overridden (properties : Json.Fields) (environment : Environment)
    (accepted : List String) (key : String) :
    (ConfigData.assemble (overridden properties environment) accepted).markerText? key =
      (ConfigData.assemble environment accepted).markerText? key := by
  unfold overridden
  split
  · rfl
  · unfold ConfigData.markerText?
    rw [ConfigData.layer?_of_layers_append
      (ConfigData.layers_assemble_addFirst environment _ accepted)
      (ConfigData.servedName_ne_markerName _)]

/-- What the client finds in an answer that has fixed properties in front of another one. -/
structure OverridesWin (properties : Json.Fields) (below answer : ConfigData) : Prop where
  /-- A fixed pair of value and origin is the value, with its origin among the fixed properties. -/
  pair : ∀ key served value locator, Fields.get? key properties = some served →
    PropertyValue.IsPair served value locator →
    answer.get? key = some (.tracked value ⟨"overrides", locator⟩)
  /-- Any other fixed value is found as it is. -/
  plain : ∀ key served, Fields.get? key properties = some served →
    (∀ value locator, ¬ PropertyValue.IsPair served value locator) →
    answer.get? key = some (.raw served)
  /-- A key without a fixed value has what it has without the fixed properties. -/
  other : ∀ key, Fields.get? key properties = none → answer.get? key = below.get? key
  state : answer.state? = below.state?
  version : answer.version? = below.version?

/-- An answer of the other repository is passed on with the fixed properties in front: on the client
every key of theirs has their value, every other key what it has without them, and state and version
stay. -/
theorem overrides_win (properties : Json.Fields) (inner : Repository σ) (query : RepositoryQuery)
    (memory : σ) {environment : Environment}
    (answered : (inner.find query memory).outcome = .ok environment) (accepted : List String) :
    ∃ answer, ((withOverrides properties inner).find query memory).outcome = .ok answer ∧
      OverridesWin properties (ConfigData.assemble environment accepted)
        (ConfigData.assemble answer accepted) := by
  have lookup := get?_assemble_overridden properties environment accepted
  have marker := markerText?_assemble_overridden properties environment accepted
  refine ⟨overridden properties environment, ?_, ?_, ?_, ?_, marker Layer.stateKey,
    marker Layer.versionKey⟩
  · simp [withOverrides, answered, Except.map]
  · intro key served value locator isFixed isPair
    rw [lookup, isFixed]
    exact congrArg some (PropertyValue.ofServed_of_isPair isPair overridesName)
  · intro key served isFixed noPair
    rw [lookup, isFixed]
    exact congrArg some (PropertyValue.ofServed_of_not_isPair noPair overridesName)
  · intro key isFree
    rw [lookup, isFree]

/-- An environment whose first source has the name of fixed properties, and whose second one is for a
profile. -/
def contested : Environment :=
  ⟨"app", ["dev"], none, none, some "s1",
    [⟨overridesName, [("a", .string "served"), ("b", .string "kept")]⟩,
      ⟨"file:app-dev.yml", [("a", .string "dev"), ("b", .string "dev")]⟩]⟩

/-- The repository that answers every query with the contested environment. -/
def contestedRepository : Repository Unit :=
  ⟨"contested", defaultOrder, fun _ memory => ⟨.ok contested, [], memory⟩⟩

/-- A fixed text, and a fixed text with the place where it is written. -/
def fixedTexts : Json.Fields :=
  [("a", .string "fixed"),
    ("c", .object [("origin", .string "line 3"), ("value", .string "placed")])]

/-- Fixed properties win over a source of their own name, and leave its other key alone; one of them
brings its origin along. -/
theorem overrides_win_contested :
    ∃ answer,
      ((withOverrides fixedTexts contestedRepository).find ⟨"app", "dev", none⟩ ()).outcome =
          .ok answer ∧
        (ConfigData.assemble answer ["dev"]).get? "a" = some (.raw (.string "fixed")) ∧
        (ConfigData.assemble answer ["dev"]).get? "c" =
          some (.tracked (.string "placed") ⟨"overrides", .string "line 3"⟩) ∧
        ((ConfigData.assemble answer ["dev"]).get? "b").bind PropertyValue.asString? =
          some "kept" ∧
        (ConfigData.assemble answer ["dev"]).state? = some "s1" := by
  have answered : (contestedRepository.find ⟨"app", "dev", none⟩ ()).outcome = .ok contested := rfl
  obtain ⟨answer, found, wins⟩ :=
    overrides_win fixedTexts contestedRepository ⟨"app", "dev", none⟩ () answered ["dev"]
  have noPair : ∀ value locator, ¬ PropertyValue.IsPair (.string "fixed") value locator := by
    rintro value locator (isObject | isObject) <;> cases isObject
  refine ⟨answer, found, wins.plain "a" _ rfl noPair, wins.pair "c" _ _ _ rfl (.inl rfl), ?_, ?_⟩
  · rw [wins.other "b" rfl]
    decide +kernel
  · rw [wins.state]
    decide +kernel

end Repository

end RemoteConfig
