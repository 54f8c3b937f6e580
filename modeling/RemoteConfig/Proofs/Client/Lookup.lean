import RemoteConfig.Client.ConfigData
import RemoteConfig.Proofs.Json.Canonical

/-!
Contract: looking a property up in the layers of an environment, told by its sources.

Owns:
- the name and the values of the layer of a source;
- `get?_assemble`: sources for a profile count before general ones, and the marker counts last;
- where the sources for a profile stand in front anyway, the order of the sources alone counts.

Does not own: which sources are for a profile.
-/

namespace RemoteConfig.ConfigData

/-- The value of a key in a source, as its layer has it. -/
def served? (key : String) (source : PropertySource) : Option PropertyValue :=
  (Fields.get? key source.source).map (PropertyValue.ofServed source.name)

/-- Is the layer of a source one for an accepted profile? -/
def isSpecific (accepted : List String) (source : PropertySource) : Bool :=
  Profile.classify (Layer.servedName source.name) accepted == .profileSpecific

theorem get?_servedLayer (patterns : List Pattern) (source : PropertySource) (key : String) :
    (servedLayer patterns source).get? key = served? key source :=
  Fields.get?_map (PropertyValue.ofServed source.name) key source.source

/-- The layers of a server never have the name of the marker. -/
theorem servedName_ne_markerName (source : String) : Layer.servedName source ≠ Layer.markerName := by
  intro same
  have eighth := congrArg (fun text : String => text.toList[6]?) same
  simp [Layer.servedName, Layer.markerName] at eighth

section Assembled

variable (environment : Environment) (accepted : List String) (key : String)

/-- A key is looked up in the sources for a profile, then in the general ones, both in the order of the
server, and last in the layer that marks a success. -/
theorem get?_assemble :
    (assemble environment accepted).get? key =
      ((environment.propertySources.filter (isSpecific accepted) ++
          environment.propertySources.filter fun source => !isSpecific accepted source).findSome?
        (served? key)).or ((markerLayer environment).get? key) := by
  have markerIsGeneral : (markerLayer environment).isProfileSpecific = false := rfl
  have ordered : (assemble environment accepted).byPrecedence =
      environment.propertySources.map (servedLayer (Profile.patterns accepted)) ++
        [markerLayer environment] := by
    simp [assemble, byPrecedence]
  have lookup : (fun source => (servedLayer (Profile.patterns accepted) source).get? key) =
      served? key := funext fun source => get?_servedLayer _ source key
  have specific : Layer.isProfileSpecific ∘ servedLayer (Profile.patterns accepted) =
      isSpecific accepted := rfl
  have general : (fun layer => !Layer.isProfileSpecific layer) ∘
      servedLayer (Profile.patterns accepted) = fun source => !isSpecific accepted source := rfl
  simp only [get?, ordered, List.filter_append, List.filter_map, specific, general,
    List.findSome?_append, List.findSome?_map, Function.comp_def, lookup]
  simp [markerIsGeneral, Option.or_assoc]

/-- The texts in the layer that marks a success are those of the environment, whatever its sources
contain. -/
theorem markerText?_assemble :
    (assemble environment accepted).markerText? Layer.stateKey = Text.nonBlank environment.state ∧
      (assemble environment accepted).markerText? Layer.versionKey =
        Text.nonBlank environment.version := by
  have isFirst : (assemble environment accepted).layer? Layer.markerName =
      some (markerLayer environment) := by
    simp [assemble, layer?, markerLayer]
  have different : (Layer.stateKey == Layer.versionKey) = false ∧
      (Layer.versionKey == Layer.stateKey) = false := by decide
  simp only [markerText?, isFirst, Option.bind_some, markerLayer, Layer.get?, Fields.get?]
  cases Text.nonBlank environment.state <;> cases Text.nonBlank environment.version <;>
    simp [List.lookup_cons, different, PropertyValue.asString?, PropertyValue.value, Json.asString?]

end Assembled

/-- Where all sources for a profile stand in front of the general ones, a key has the value in the
first source that has it. -/
theorem get?_assemble_of_ordered {environment : Environment} {accepted : List String}
    {specific general : List PropertySource}
    (ordered : environment.propertySources = specific ++ general)
    (areSpecific : ∀ source ∈ specific, isSpecific accepted source = true)
    (areGeneral : ∀ source ∈ general, isSpecific accepted source = false) (key : String) :
    (assemble environment accepted).get? key =
      (environment.propertySources.findSome? (served? key)).or
        ((markerLayer environment).get? key) := by
  have first : (specific ++ general).filter (isSpecific accepted) = specific := by
    rw [List.filter_append, List.filter_eq_self.mpr areSpecific, List.filter_eq_nil_iff.mpr,
      List.append_nil]
    simpa using areGeneral
  have second : (specific ++ general).filter (fun source => !isSpecific accepted source) =
      general := by
    rw [List.filter_append, List.filter_eq_nil_iff.mpr, List.filter_eq_self.mpr, List.nil_append]
    · simpa using areGeneral
    · simpa using areSpecific
  rw [get?_assemble, ordered, first, second]

end RemoteConfig.ConfigData
