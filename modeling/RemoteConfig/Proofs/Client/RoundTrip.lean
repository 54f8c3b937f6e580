import RemoteConfig.Proofs.Client.Merging
import RemoteConfig.Proofs.Tree.Rebuilding

/-!
Contract: a document that is flattened and served is what the client reads.

Owns:
- the flat map of a document holds each leaf under a canonical path of its own;
- merging the layers of an environment with a single source puts exactly its properties;
- `deserialize_flatten`: the merged layers of a flattened document are the document.

Does not own: documents with names beyond small letters, digits, underscores and hyphens.
-/

namespace RemoteConfig

/-! ### The flat map of a document -/

namespace Json

theorem mem_settings {fields : List (String × Json)} {setting : Tree.Path × Json} :
    setting ∈ settings fields ↔ ∃ field ∈ fields, ∃ leaf ∈ field.2.leaves,
      (⟨field.1, leaf.1⟩, leaf.2) = setting := by
  simp [settings]

section Object

variable {fields : List (String × Json)}

/-- Different leaves of an object have different paths. -/
theorem pairwise_settings (isCanonical : (object fields).canonical = .object fields) :
    (settings fields).Pairwise fun first second => first.1 ≠ second.1 := by
  have apart := pairwise_fieldLeaves fields (isSorted_of_canonical isCanonical)
    fun _ => canonical_of_mem_fields isCanonical
  rw [← descents_settings] at apart
  refine (List.pairwise_map.mp apart).imp fun {first second} different same => ?_
  exact different (congrArg Tree.Path.descent same)

/-- The leaves of an object have canonical paths whose positions fit. -/
theorem path_of_mem_settings (restorable : AreRestorable fields) {setting : Tree.Path × Json}
    (member : setting ∈ settings fields) :
    setting.1.IsCanonical ∧ setting.1.InRange ∧ setting.2.IsLeaf := by
  obtain ⟨field, isField, leaf, isLeaf, rfl⟩ := mem_settings.mp member
  obtain ⟨small, valueRestorable⟩ := areRestorable_iff.mp restorable field isField
  have steps := steps_of_mem_leaves field.2 valueRestorable leaf isLeaf
  exact ⟨⟨small, fun step below => (steps step below).1⟩, fun step below => (steps step below).2,
    isLeaf_of_mem_leaves field.2 leaf isLeaf⟩

/-- The flat map of an object holds its leaves, each under the text of its path. -/
theorem perm_flatten (isCanonical : (object fields).canonical = .object fields)
    (restorable : AreRestorable fields) :
    (flatten (.object fields)).Perm
      ((settings fields).map fun setting => (setting.1.text, setting.2)) := by
  rw [flatten_object fun field member => (areRestorable_iff.mp restorable field member).1.1]
  refine Fields.perm_ofList ?_
  rw [List.map_map]
  refine List.pairwise_map.mpr ((pairwise_settings isCanonical).imp_of_mem ?_)
  intro first second firstMember secondMember different sameText
  exact different (Tree.Path.text_injective (path_of_mem_settings restorable firstMember).1
    (path_of_mem_settings restorable secondMember).1 sameText)

theorem mem_flatten (isCanonical : (object fields).canonical = .object fields)
    (restorable : AreRestorable fields) {key : String} {value : Json} :
    (key, value) ∈ flatten (.object fields) ↔
      ∃ path : Tree.Path, (path, value) ∈ settings fields ∧ path.text = key := by
  rw [(perm_flatten isCanonical restorable).mem_iff, List.mem_map]
  constructor
  · rintro ⟨⟨path, leaf⟩, member, same⟩
    obtain ⟨rfl, rfl⟩ := Prod.mk.inj same
    exact ⟨path, member, rfl⟩
  · rintro ⟨path, member, rfl⟩
    exact ⟨(path, value), member, rfl⟩

theorem isSorted_flatten (document : Json) : Fields.IsSorted (flatten document) :=
  Fields.isSorted_ofList _

end Object

end Json

/-! ### Layers of a single source -/

namespace ConfigData

/-- An environment with a single source, without state and version. -/
def single (name : String) (profiles : List String) (label : Option String)
    (source : PropertySource) : Environment :=
  ⟨name, profiles, label, none, none, [source]⟩

section Single

variable (name : String) (profiles : List String) (label : Option String) (source : PropertySource)
  (accepted : List String)

/-- The layer of the only source is merged behind the empty layer that marks a success. -/
theorem mergeOrder_single :
    (assemble (single name profiles label source) accepted).mergeOrder =
      [⟨Layer.markerName, [], .general⟩, servedLayer (Profile.patterns accepted) source] := by
  have marker : markerLayer (single name profiles label source) =
      ⟨Layer.markerName, [], .general⟩ := rfl
  have isGeneral : Layer.isProfileSpecific ⟨Layer.markerName, [], .general⟩ = false := rfl
  have sources : (single name profiles label source).propertySources = [source] := rfl
  simp only [mergeOrder, assemble, marker, sources, List.map_cons, List.map_nil,
    List.reverse_singleton]
  cases specific : (servedLayer (Profile.patterns accepted) source).isProfileSpecific <;>
    simp [isGeneral, specific]

end Single

section Flattened

variable {fields : List (String × Json)} {sourceName : String} {patterns : List Pattern}

/-- The layer of a flattened document has the leaves of the document under their paths. -/
theorem mem_servedLayer_flatten (isCanonical : (Json.object fields).canonical = .object fields)
    (restorable : Json.AreRestorable fields) {key : String} {property : PropertyValue} :
    (key, property) ∈ (servedLayer patterns ⟨sourceName, flatten (.object fields)⟩).properties ↔
      ∃ path : Tree.Path, ∃ value, (path, value) ∈ Json.settings fields ∧ path.text = key ∧
        property = .raw value := by
  simp only [servedLayer, PropertySource.tracked, List.mem_map, Prod.exists, Prod.mk.injEq,
    Json.mem_flatten isCanonical restorable]
  constructor
  · rintro ⟨key, value, ⟨path, member, rfl⟩, rfl, rfl⟩
    exact ⟨path, value, member, rfl, PropertyValue.ofServed_of_isLeaf
      (Json.path_of_mem_settings restorable member).2.2 _⟩
  · rintro ⟨path, value, member, rfl, rfl⟩
    exact ⟨path.text, value, ⟨path, member, rfl⟩, rfl, PropertyValue.ofServed_of_isLeaf
      (Json.path_of_mem_settings restorable member).2.2 _⟩

variable (sourceName patterns) in
/-- Merging the layer of a flattened document puts exactly its leaves. -/
theorem foldlM_putLayer_flatten (isCanonical : (Json.object fields).canonical = .object fields)
    (restorable : Json.AreRestorable fields) :
    ∃ settings, [⟨Layer.markerName, [], .general⟩,
        servedLayer patterns ⟨sourceName, flatten (.object fields)⟩].foldlM putLayer [] =
          .ok settings ∧ settings.Perm (Json.settings fields) := by
  have sorted : Fields.IsSorted
      (servedLayer patterns ⟨sourceName, flatten (.object fields)⟩).properties :=
    List.pairwise_map.mpr (Json.isSorted_flatten _)
  have readable : AreReadable
      (servedLayer patterns ⟨sourceName, flatten (.object fields)⟩).properties := by
    rintro ⟨key, property⟩ member
    obtain ⟨path, value, isSetting, isKey, _⟩ :=
      (mem_servedLayer_flatten isCanonical restorable).mp member
    obtain ⟨canonical, inRange, _⟩ := Json.path_of_mem_settings restorable isSetting
    exact ⟨path, canonical, inRange, isKey⟩
  obtain ⟨settings, merges, latest⟩ := isLatest_foldlM
    [⟨Layer.markerName, [], .general⟩,
      servedLayer patterns ⟨sourceName, flatten (.object fields)⟩]
    (List.forall_mem_cons.mpr ⟨List.Pairwise.nil, List.forall_mem_singleton.mpr sorted⟩)
    (List.forall_mem_cons.mpr
      ⟨fun _ member => absurd member List.not_mem_nil, List.forall_mem_singleton.mpr readable⟩)
  refine ⟨settings, merges, ?_⟩
  have nodup {settings : List (Tree.Path × Json)}
      (distinct : settings.Pairwise fun first second => first.1 ≠ second.1) : settings.Nodup :=
    distinct.imp fun different same => different (congrArg Prod.fst same)
  refine (List.perm_ext_iff_of_nodup (nodup latest.distinct)
    (nodup (Json.pairwise_settings isCanonical))).mpr ?_
  rintro ⟨path, value⟩
  constructor
  · intro member
    obtain ⟨canonical, _, layer, isLayer, property, found, isValue⟩ := latest.origin _ member
    rcases List.mem_cons.mp isLayer with rfl | isServed
    · cases found
    · rw [List.mem_singleton.mp isServed, mem_servedLayer_flatten isCanonical restorable] at found
      obtain ⟨other, leaf, isSetting, sameText, rfl⟩ := found
      have samePath : other = path := Tree.Path.text_injective
        (Json.path_of_mem_settings restorable isSetting).1 canonical sameText
      have sameValue : leaf = value := isValue
      rwa [← samePath, ← sameValue]
  · intro isSetting
    obtain ⟨canonical, inRange, _⟩ := Json.path_of_mem_settings restorable isSetting
    have found : (servedLayer patterns ⟨sourceName, flatten (.object fields)⟩).get? path.text =
        some (.raw value) :=
      Fields.get?_of_mem sorted ((mem_servedLayer_flatten isCanonical restorable).mpr
        ⟨path, value, isSetting, rfl, rfl⟩)
    refine mem_of_lookup ?_
    rw [latest.latest path canonical inRange]
    simp [found, PropertyValue.value]

/-- Setting the leaves of an object in any order, from the empty tree, gives the object. -/
theorem setEach_settings (isCanonical : (Json.object fields).canonical = .object fields)
    (restorable : Json.AreRestorable fields) {order : List (Tree.Path × Json)}
    (perm : order.Perm (Json.settings fields)) :
    (Tree.setEach order Tree.empty).toJson = .object fields := by
  have asLeaves : Tree.setEach order Tree.empty =
      Tree.setLeaves (order.map fun setting => (setting.1.descent, setting.2)) Tree.empty := by
    rw [Tree.setEach, Tree.setLeaves, List.foldl_map]
    rfl
  have leaves : (order.map fun setting => (setting.1.descent, setting.2)).Perm
      (Json.fieldLeaves fields) := by
    rw [← Json.descents_settings]
    exact perm.map _
  rw [asLeaves]
  cases fields with
  | nil =>
      rw [List.perm_nil.mp leaves]
      rfl
  | cons field rest =>
      have facts := Json.areRestorable_iff.mp restorable
      rw [Tree.setLeaves_fieldLeaves (by simp) (Json.isSorted_of_canonical isCanonical)
        (fun field member => (facts field member).1)
        (Tree.rebuild_fields _ (fun _ => Json.canonical_of_mem_fields isCanonical) restorable)
        leaves rfl]
      exact Tree.toJson_ofJson _

end Flattened

/-- An object with small names, and without empty objects below it, is read back as it was when it is
flattened into the only source of an environment. The order in which the merged properties are set
makes no difference. -/
theorem deserialize_flatten {fields : List (String × Json)}
    (isCanonical : (Json.object fields).canonical = .object fields)
    (restorable : Json.AreRestorable fields) (name : String) (profiles : List String)
    (label : Option String) (sourceName : String) (accepted : List String) :
    (assemble (single name profiles label ⟨sourceName, flatten (.object fields)⟩)
        accepted).deserialize (fun tree => some tree.toJson) = .ok (.object fields) ∧
      ∃ settings,
        (assemble (single name profiles label ⟨sourceName, flatten (.object fields)⟩)
            accepted).mergeOrder.foldlM putLayer [] = .ok settings ∧
          ∀ order : List (Tree.Path × Json), order.Perm settings →
            (Tree.setEach order Tree.empty).toJson = .object fields := by
  obtain ⟨settings, merges, perm⟩ :=
    foldlM_putLayer_flatten sourceName (Profile.patterns accepted) isCanonical restorable
  rw [← mergeOrder_single name profiles label] at merges
  refine ⟨?_, settings, merges, fun order same =>
    setEach_settings isCanonical restorable (same.trans perm)⟩
  have isDocument := setEach_settings isCanonical restorable perm
  unfold deserialize merged
  rw [merges, ← isDocument]
  rfl

/-- A document with nested lists, more than ten items, every kind of leaf and names of every kind. -/
def nestedFields : List (String × Json) :=
  [("0", .array []),
    ("a-b", .array
      [.array [.null, .array []], .object [("_", .bool true)], .string "", .bool false,
        .null, .null, .null, .null, .null, .null, .object [("z", .array [.bool false])]]),
    ("n", .object [("-", .number (.integer (-1) (by decide))),
      ("u", .number (.integer Number.greatestUnsigned64 (by decide)))])]

/-- The nested document is read back as it was. -/
theorem deserialize_nestedFields :
    (Json.object nestedFields).canonical = .object nestedFields ∧
      Json.AreRestorable nestedFields ∧
      (assemble (single "app" ["dev"] none ⟨"file:app-dev.yml", flatten (.object nestedFields)⟩)
        ["dev"]).deserialize (fun tree => some tree.toJson) = .ok (.object nestedFields) := by
  have isCanonical : (Json.object nestedFields).canonical = .object nestedFields := by
    rfl
  have restorable : Json.AreRestorable nestedFields := by
    simp [nestedFields, Json.AreRestorable, Json.IsRestorable, Json.itemsAreRestorable,
      Tree.IsSmallName, Tree.isSmallNameChar, Number.greatest64]
  exact ⟨isCanonical, restorable,
    (deserialize_flatten isCanonical restorable "app" ["dev"] none "file:app-dev.yml" ["dev"]).1⟩

end ConfigData

end RemoteConfig
