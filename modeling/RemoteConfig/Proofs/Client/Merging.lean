import Mathlib
import RemoteConfig.Client.ConfigData
import RemoteConfig.Proofs.Environment.Canonical
import RemoteConfig.Proofs.Tree.Capacity
import RemoteConfig.Proofs.Tree.PathText

/-!
Contract: the merged layers hold under every key the value that looking the key up gives.

Owns:
- canonical layers, which are those assembled from a canonical environment;
- the layers whose keys do not get in each other's way;
- when merging such layers has room, where no list holds more than a number of items;
- `deserialize_eq_get?`: both readings of the layers agree, key by key.

Does not own: layers with keys that overlap.
-/

namespace RemoteConfig

/-- A layer has its properties in the order of their keys, and canonical values. -/
structure Layer.IsCanonical (layer : Layer) : Prop where
  sorted : Fields.IsSorted layer.properties
  values : ∀ entry ∈ layer.properties, entry.2.value.canonical = entry.2.value

namespace ConfigData

/-- A canonical path under whose text some layer has a property. -/
def Holds (data : ConfigData) (path : Tree.Path) : Prop :=
  path.IsCanonical ∧ ∃ layer ∈ data.layers, ∃ property, (path.text, property) ∈ layer.properties

/-- Layers whose keys are canonical and do not get in each other's way. -/
structure IsSeparate (data : ConfigData) : Prop where
  /-- Every key is a canonical path. -/
  keys : ∀ layer ∈ data.layers, ∀ entry ∈ layer.properties,
    ∃ path : Tree.Path, path.IsCanonical ∧ path.text = entry.1
  /-- No key is a proper beginning of another one. -/
  noPrefix : ∀ first second, data.Holds first → data.Holds second →
    first.descent <+: second.descent → first = second
  /-- No node has both named and numbered children. -/
  oneKind : ∀ first second node name index, data.Holds first → data.Holds second →
    node ++ [.child name] <+: first.descent → ¬ node ++ [.position index] <+: second.descent
  /-- Objects have names in lower case. -/
  lower : ∀ layer ∈ data.layers, ∀ entry ∈ layer.properties, entry.2.value.HasLowerNames

end ConfigData

/-! ### The layers of a canonical environment -/

theorem PropertyValue.canonical_value_ofServed {served : Json}
    (isCanonical : served.canonical = served) (sourceName : String) :
    (PropertyValue.ofServed sourceName served).value.canonical =
      (PropertyValue.ofServed sourceName served).value := by
  unfold PropertyValue.ofServed
  split
  · split
    · rename_i found
      exact Json.canonical_of_mem_fields isCanonical (Fields.mem_of_get? found)
    · exact isCanonical
  · exact isCanonical

theorem ConfigData.isCanonical_servedLayer {source : PropertySource}
    (isCanonical : source.IsCanonical) (patterns : List Pattern) :
    (ConfigData.servedLayer patterns source).IsCanonical where
  sorted := List.pairwise_map.mpr (Json.isSorted_of_canonical isCanonical)
  values entry member := by
    simp only [ConfigData.servedLayer, PropertySource.tracked, List.mem_map] at member
    obtain ⟨field, fieldMember, rfl⟩ := member
    exact PropertyValue.canonical_value_ofServed
      (Json.canonical_of_mem_fields isCanonical fieldMember) _

theorem ConfigData.isCanonical_markerLayer (environment : Environment) :
    (ConfigData.markerLayer environment).IsCanonical where
  sorted := by
    have ordered : Layer.stateKey < Layer.versionKey := by decide
    simp only [ConfigData.markerLayer, Fields.IsSorted]
    cases Text.nonBlank environment.state with
    | none =>
        cases Text.nonBlank environment.version with
        | none => exact List.Pairwise.nil
        | some version => exact List.pairwise_singleton _ _
    | some state =>
        cases Text.nonBlank environment.version with
        | none => exact List.pairwise_singleton _ _
        | some version => exact List.pairwise_pair.mpr ordered
  values entry member := by
    simp only [ConfigData.markerLayer, List.mem_append, List.mem_map] at member
    rcases member with ⟨_, _, rfl⟩ | ⟨_, _, rfl⟩ <;> rfl

theorem ConfigData.isCanonical_of_mem_assemble {environment : Environment}
    (isCanonical : environment.IsCanonical) (accepted : List String) {layer : Layer}
    (member : layer ∈ (ConfigData.assemble environment accepted).layers) : layer.IsCanonical := by
  simp only [ConfigData.assemble, List.mem_cons, List.mem_reverse, List.mem_map] at member
  rcases member with rfl | ⟨source, sourceMember, rfl⟩
  · exact isCanonical_markerLayer environment
  · exact isCanonical_servedLayer (isCanonical source sourceMember) _

namespace ConfigData

/-! ### Putting properties under their paths -/

theorem lookup_putPath (path other : Tree.Path) (value : Json)
    (settings : List (Tree.Path × Json)) :
    (putPath path value settings).lookup other =
      if other = path then some value else settings.lookup other := by
  induction settings with
  | nil =>
      by_cases same : other = path
      · simp [putPath, same]
      · have unequal : (other == path) = false := by simpa using same
        simp [putPath, List.lookup_cons, unequal, same]
  | cons setting rest inductionHypothesis =>
      obtain ⟨first, firstValue⟩ := setting
      unfold putPath
      by_cases replaces : first = path
      · subst replaces
        by_cases same : other = first
        · simp [same]
        · have unequal : (other == first) = false := by simpa using same
          simp [List.lookup_cons, unequal, same]
      · rw [if_neg replaces, List.lookup_cons, List.lookup_cons, inductionHypothesis]
        by_cases same : other = first
        · subst same
          simp [replaces]
        · have unequal : (other == first) = false := by simpa using same
          simp [unequal]

theorem mem_putPath {path : Tree.Path} {value : Json} {settings : List (Tree.Path × Json)}
    {setting : Tree.Path × Json} (member : setting ∈ putPath path value settings) :
    setting = (path, value) ∨ setting ∈ settings := by
  induction settings with
  | nil => simpa [putPath] using member
  | cons first rest inductionHypothesis =>
      obtain ⟨other, otherValue⟩ := first
      unfold putPath at member
      split at member
      · rcases List.mem_cons.mp member with isNew | later
        · exact .inl isNew
        · exact .inr (List.mem_cons_of_mem _ later)
      · rcases List.mem_cons.mp member with isFirst | later
        · exact .inr (isFirst ▸ List.mem_cons_self)
        · exact (inductionHypothesis later).imp id (List.mem_cons_of_mem _)

theorem pairwise_putPath {path : Tree.Path} {value : Json} {settings : List (Tree.Path × Json)}
    (distinct : settings.Pairwise fun first second => first.1 ≠ second.1) :
    (putPath path value settings).Pairwise fun first second => first.1 ≠ second.1 := by
  induction settings with
  | nil => simp [putPath]
  | cons first rest inductionHypothesis =>
      obtain ⟨other, otherValue⟩ := first
      obtain ⟨apart, restDistinct⟩ := List.pairwise_cons.mp distinct
      unfold putPath
      split
      · rename_i same
        subst same
        exact List.pairwise_cons.mpr ⟨apart, restDistinct⟩
      · rename_i different
        refine List.pairwise_cons.mpr ⟨?_, inductionHypothesis restDistinct⟩
        intro setting member
        rcases mem_putPath member with rfl | old
        · exact different
        · exact apart setting old

theorem mem_of_lookup {settings : List (Tree.Path × Json)} {path : Tree.Path} {value : Json}
    (found : settings.lookup path = some value) : (path, value) ∈ settings := by
  obtain ⟨_, _, rfl, _⟩ := List.lookup_eq_some_iff.mp found
  simp

/-! ### Merging layer by layer -/

/-- Every key is the text of a canonical path whose positions fit. -/
def AreReadable (properties : List (String × PropertyValue)) : Prop :=
  ∀ entry ∈ properties,
    ∃ path : Tree.Path, path.IsCanonical ∧ path.InRange ∧ path.text = entry.1

/-- Settings hold, under every path, the value of the last of some layers that has the key. -/
structure IsLatest (layers : List Layer) (settings : List (Tree.Path × Json)) : Prop where
  distinct : settings.Pairwise fun first second => first.1 ≠ second.1
  latest : ∀ path : Tree.Path, path.IsCanonical → path.InRange →
    settings.lookup path =
      (layers.reverse.findSome? fun layer => layer.get? path.text).map PropertyValue.value
  origin : ∀ setting ∈ settings, setting.1.IsCanonical ∧ setting.1.InRange ∧
    ∃ layer ∈ layers, ∃ property, (setting.1.text, property) ∈ layer.properties ∧
      property.value = setting.2

/-- A layer with only some of its properties. -/
def only (layer : Layer) (properties : List (String × PropertyValue)) : Layer :=
  { layer with properties := properties }

/-- Putting one more property of the last layer. -/
theorem IsLatest.put {layers : List Layer} {settings : List (Tree.Path × Json)} {layer : Layer}
    {done : List (String × PropertyValue)}
    (latest : IsLatest (layers ++ [only layer done]) settings) {path : Tree.Path}
    (canonical : path.IsCanonical) (inRange : path.InRange) (property : PropertyValue)
    (sorted : Fields.IsSorted (done ++ [(path.text, property)])) :
    IsLatest (layers ++ [only layer (done ++ [(path.text, property)])])
      (putPath path property.value settings) where
  distinct := pairwise_putPath latest.distinct
  latest other otherCanonical otherInRange := by
    have before := latest.latest other otherCanonical otherInRange
    simp only [List.reverse_append, List.reverse_singleton, List.singleton_append,
      List.findSome?_cons, Layer.get?, only] at before ⊢
    rw [lookup_putPath]
    by_cases same : other = path
    · subst same
      have found : Fields.get? other.text (done ++ [(other.text, property)]) = some property :=
        Fields.get?_of_mem sorted (by simp)
      simp [found]
    · have differentText : other.text ≠ path.text := fun sameText =>
        same (Tree.Path.text_injective otherCanonical canonical sameText)
      have unchanged : Fields.get? other.text (done ++ [(path.text, property)]) =
          Fields.get? other.text done := by
        have unequal : (other.text == path.text) = false := by simpa using differentText
        simp [Fields.get?, List.lookup_append, List.lookup_cons, unequal]
      rw [if_neg same, before, unchanged]
  origin setting member := by
    rcases mem_putPath member with rfl | old
    · exact ⟨canonical, inRange, only layer (done ++ [(path.text, property)]), by simp, property,
        by simp [only], rfl⟩
    · obtain ⟨isCanonical, isInRange, source, sourceMember, found, foundMember, value⟩ :=
        latest.origin setting old
      refine ⟨isCanonical, isInRange, ?_⟩
      rcases List.mem_append.mp sourceMember with earlier | isLast
      · exact ⟨source, List.mem_append_left _ earlier, found, foundMember, value⟩
      · rw [List.mem_singleton] at isLast
        subst isLast
        exact ⟨only layer (done ++ [(path.text, property)]), by simp, found,
          List.mem_append_left _ foundMember, value⟩

/-- The first property of a layer is put under its path before the others. -/
theorem putLayer_cons {layer : Layer} {key : String} {property : PropertyValue}
    {rest : List (String × PropertyValue)} {path : Tree.Path} (settings : List (Tree.Path × Json))
    (read : Tree.Path.parse? key = some path) :
    ConfigData.putLayer settings (only layer ((key, property) :: rest)) =
      ConfigData.putLayer (putPath path property.value settings) (only layer rest) := by
  unfold ConfigData.putLayer only
  simp only [List.foldlM_cons, read]
  rfl

/-- When some properties of a layer have been put, so can the remaining ones. -/
theorem IsLatest.putRemaining {layers : List Layer} {settings : List (Tree.Path × Json)}
    {layer : Layer} {done remaining : List (String × PropertyValue)}
    (parts : done ++ remaining = layer.properties)
    (latest : IsLatest (layers ++ [only layer done]) settings)
    (sorted : Fields.IsSorted layer.properties) (readable : AreReadable layer.properties) :
    ∃ after, ConfigData.putLayer settings (only layer remaining) = .ok after ∧
      IsLatest (layers ++ [layer]) after := by
  induction remaining generalizing done settings with
  | nil =>
      refine ⟨settings, rfl, ?_⟩
      rw [List.append_nil] at parts
      rw [parts] at latest
      exact latest
  | cons entry rest inductionHypothesis =>
      obtain ⟨path, canonical, inRange, isKey⟩ := readable entry (by simp [← parts])
      obtain ⟨key, property⟩ := entry
      simp only at isKey
      subst isKey
      have partsNext : (done ++ [(path.text, property)]) ++ rest = layer.properties := by
        simpa using parts
      have sortedNext : Fields.IsSorted (done ++ [(path.text, property)]) := by
        unfold Fields.IsSorted at sorted
        rw [← partsNext] at sorted
        exact (List.pairwise_append.mp sorted).1
      have read : Tree.Path.parse? path.text = some path := by
        rw [Tree.Path.parse?_text canonical, if_pos inRange]
      rw [putLayer_cons settings read]
      exact inductionHypothesis partsNext (latest.put canonical inRange property sortedNext)

/-- Putting a layer that can be read makes its values the latest ones. -/
theorem IsLatest.putLayer {layers : List Layer} {settings : List (Tree.Path × Json)} {layer : Layer}
    (latest : IsLatest layers settings) (sorted : Fields.IsSorted layer.properties)
    (readable : AreReadable layer.properties) :
    ∃ after, ConfigData.putLayer settings layer = .ok after ∧ IsLatest (layers ++ [layer]) after := by
  have nothingPut : IsLatest (layers ++ [only layer []]) settings := by
    refine ⟨latest.distinct, ?_, ?_⟩
    · intro path canonical inRange
      rw [latest.latest path canonical inRange, List.reverse_append, List.reverse_singleton,
        List.singleton_append, List.findSome?_cons]
      rfl
    · intro setting member
      obtain ⟨canonical, inRange, source, sourceMember, found⟩ := latest.origin setting member
      exact ⟨canonical, inRange, source, List.mem_append_left _ sourceMember, found⟩
  exact nothingPut.putRemaining (List.nil_append _) sorted readable

/-- Merging layers that can be read gives the latest values. -/
theorem isLatest_foldlM (layers : List Layer) (sorted : ∀ layer ∈ layers, Fields.IsSorted layer.properties)
    (readable : ∀ layer ∈ layers, AreReadable layer.properties) :
    ∃ settings, layers.foldlM putLayer [] = .ok settings ∧ IsLatest layers settings := by
  have step (done remaining : List Layer) (settings : List (Tree.Path × Json))
      (parts : done ++ remaining = layers) (latest : IsLatest done settings) :
      ∃ after, remaining.foldlM putLayer settings = .ok after ∧ IsLatest layers after := by
    induction remaining generalizing done settings with
    | nil =>
        rw [List.append_nil] at parts
        exact ⟨settings, rfl, parts ▸ latest⟩
    | cons layer rest inductionHypothesis =>
        have member : layer ∈ layers := by simp [← parts]
        obtain ⟨between, puts, isLatest⟩ := latest.putLayer (sorted layer member)
          (readable layer member)
        obtain ⟨after, rests, isLatestAfter⟩ := inductionHypothesis (done ++ [layer]) between
          (by simpa using parts) isLatest
        refine ⟨after, ?_, isLatestAfter⟩
        rw [List.foldlM_cons, puts]
        exact rests
  exact step [] layers [] rfl ⟨List.Pairwise.nil, by simp, by simp⟩

/-! ### Keys that cannot be merged -/

theorem mem_mergeOrder {data : ConfigData} (layer : Layer) : layer ∈ data.mergeOrder ↔ layer ∈ data.layers := by
  unfold mergeOrder
  cases specific : layer.isProfileSpecific <;> simp [specific]

/-- Every key of a layer is a path, or merging the layer fails. -/
theorem putLayer_cases (settings : List (Tree.Path × Json)) (layer : Layer) :
    (∃ after, putLayer settings layer = .ok after ∧
        ∀ entry ∈ layer.properties, (Tree.Path.parse? entry.1).isSome) ∨
      putLayer settings layer = .error (.load (.mergeLayer layer.name)) := by
  unfold putLayer
  induction layer.properties generalizing settings with
  | nil => exact .inl ⟨settings, rfl, by simp⟩
  | cons entry rest inductionHypothesis =>
      rw [List.foldlM_cons]
      cases read : Tree.Path.parse? entry.1 with
      | none => exact .inr (by simp [read]; rfl)
      | some path =>
          simp only [read]
          rcases inductionHypothesis (putPath path entry.2.value settings) with
            ⟨after, puts, readable⟩ | fails
          · refine .inl ⟨after, puts, ?_⟩
            intro other member
            rcases List.mem_cons.mp member with rfl | later
            · simp [read]
            · exact readable other later
          · exact .inr fails

/-- Every key of some layers is a path, or merging them fails at one of them. -/
theorem foldlM_putLayer_cases (settings : List (Tree.Path × Json)) (layers : List Layer) :
    (∃ after, layers.foldlM putLayer settings = .ok after ∧
        ∀ layer ∈ layers, ∀ entry ∈ layer.properties, (Tree.Path.parse? entry.1).isSome) ∨
      ∃ layer ∈ layers, layers.foldlM putLayer settings = .error (.load (.mergeLayer layer.name)) := by
  induction layers generalizing settings with
  | nil => exact .inl ⟨settings, rfl, by simp⟩
  | cons layer rest inductionHypothesis =>
      rw [List.foldlM_cons]
      rcases putLayer_cases settings layer with ⟨after, puts, readable⟩ | fails
      · rw [puts]
        rcases inductionHypothesis after with ⟨final, rests, restReadable⟩ | ⟨culprit, member, fails⟩
        · refine .inl ⟨final, rests, ?_⟩
          intro other otherMember
          rcases List.mem_cons.mp otherMember with rfl | later
          · exact readable
          · exact restReadable other later
        · exact .inr ⟨culprit, List.mem_cons_of_mem _ member, fails⟩
      · exact .inr ⟨layer, List.mem_cons_self, by rw [fails]; rfl⟩

/-- A path of the layers with a position that is out of range cannot be put. -/
theorem putLayers_of_not_inRange {data : ConfigData} {path : Tree.Path} (holds : data.Holds path)
    (wide : ¬ path.InRange) :
    ∃ layer ∈ data.layers,
      data.mergeOrder.foldlM putLayer [] = .error (.load (.mergeLayer layer.name)) := by
  obtain ⟨canonical, layer, member, property, found⟩ := holds
  rcases foldlM_putLayer_cases [] data.mergeOrder with ⟨_, _, readable⟩ | ⟨culprit, culpritMember, fails⟩
  · have isPath := readable layer ((mem_mergeOrder layer).mpr member) _ found
    rw [Tree.Path.parse?_text canonical, if_neg wide] at isPath
    cases isPath
  · exact ⟨culprit, (mem_mergeOrder culprit).mp culpritMember, fails⟩

/-- A path of the layers with a position that is out of range lets every reading fail. -/
theorem deserialize_of_not_inRange {α : Type} (data : ConfigData) (read : Tree → Option α)
    {path : Tree.Path} (holds : data.Holds path) (wide : ¬ path.InRange) :
    ∃ layer ∈ data.layers, data.deserialize read = .error (.load (.mergeLayer layer.name)) := by
  obtain ⟨culprit, member, fails⟩ := putLayers_of_not_inRange holds wide
  refine ⟨culprit, member, ?_⟩
  unfold deserialize merged
  rw [fails]
  rfl

/-! ### Both readings agree -/

section Agreement

variable {data : ConfigData} {settings : List (Tree.Path × Json)}

/-- Looking a key up finds the layer that is merged last. -/
theorem get?_eq_findSome? (key : String) :
    data.get? key = data.mergeOrder.reverse.findSome? fun layer => layer.get? key := by
  unfold get? mergeOrder byPrecedence
  rw [List.reverse_append, ← List.filter_reverse, ← List.filter_reverse]

theorem isPlain_of_isCanonical {path : Tree.Path} (canonical : path.IsCanonical) :
    ∀ step ∈ path.descent, step.IsPlain := by
  obtain ⟨small, steps⟩ := canonical
  intro step member
  rcases List.mem_cons.mp member with rfl | below
  · exact Tree.lowercase_of_isSmallName small
  · have isCanonical := steps step below
    cases step with
    | child name => exact Tree.lowercase_of_isSmallName isCanonical
    | position index => exact isCanonical

theorem IsLatest.holds (latest : IsLatest data.mergeOrder settings) {setting : Tree.Path × Json}
    (member : setting ∈ settings) : data.Holds setting.1 := by
  obtain ⟨canonical, _, layer, layerMember, property, found, _⟩ := latest.origin setting member
  exact ⟨canonical, layer, (mem_mergeOrder layer).mp layerMember, property, found⟩

/-- The latest values of separate layers are independent of each other. -/
theorem IsLatest.independent (latest : IsLatest data.mergeOrder settings)
    (separate : data.IsSeparate) (layers : ∀ layer ∈ data.layers, layer.IsCanonical) :
    Tree.Independent settings where
  part := by
    refine latest.distinct.imp_of_mem ?_
    intro first second firstMember secondMember different
    have firstHolds := latest.holds firstMember
    have secondHolds := latest.holds secondMember
    refine Tree.part_of_apart ?_ ?_ ?_ ?_
    · exact fun before => different (separate.noPrefix _ _ firstHolds secondHolds before)
    · exact fun behind => different (separate.noPrefix _ _ secondHolds firstHolds behind).symm
    · exact fun node name index => separate.oneKind _ _ node name index firstHolds secondHolds
    · exact fun node name index => separate.oneKind _ _ node name index secondHolds firstHolds
  plain setting member := isPlain_of_isCanonical (latest.holds member).1
  canonical setting member := by
    obtain ⟨_, _, layer, layerMember, property, found, value⟩ := latest.origin setting member
    rw [← value]
    exact (layers layer ((mem_mergeOrder layer).mp layerMember)).values _ found
  lower setting member := by
    obtain ⟨_, _, layer, layerMember, property, found, value⟩ := latest.origin setting member
    rw [← value]
    exact separate.lower layer ((mem_mergeOrder layer).mp layerMember) _ found

/-- Under a path of the layers the settings have the value that looking the key up gives. -/
theorem IsLatest.get?_of_holds (latest : IsLatest data.mergeOrder settings)
    (layers : ∀ layer ∈ data.layers, layer.IsCanonical) {path : Tree.Path}
    (holds : data.Holds path) (inRange : path.InRange) :
    ∃ property, data.get? path.text = some property ∧ (path, property.value) ∈ settings := by
  obtain ⟨canonical, layer, member, present, found⟩ := holds
  have isFound : layer.get? path.text = some present :=
    Fields.get?_of_mem (layers layer member).sorted found
  have isSome : (data.get? path.text).isSome := by
    rw [get?_eq_findSome?, List.findSome?_isSome_iff]
    exact ⟨layer, by simpa [mem_mergeOrder] using member, by rw [isFound]; rfl⟩
  obtain ⟨property, isProperty⟩ := Option.isSome_iff_exists.mp isSome
  refine ⟨property, isProperty, mem_of_lookup ?_⟩
  rw [latest.latest path canonical inRange, ← get?_eq_findSome?, isProperty]
  rfl

theorem areReadable_of_isSeparate (separate : data.IsSeparate)
    (inRange : ∀ path, data.Holds path → path.InRange) {layer : Layer}
    (member : layer ∈ data.layers) : AreReadable layer.properties := by
  intro entry entryMember
  obtain ⟨path, canonical, isKey⟩ := separate.keys layer member entry entryMember
  exact ⟨path, canonical, inRange path ⟨canonical, layer, member, entry.2, isKey ▸ entryMember⟩,
    isKey⟩

/-- The keys of separate layers can be put under their paths, with the latest values. -/
theorem settings_of_isSeparate (separate : data.IsSeparate)
    (layers : ∀ layer ∈ data.layers, layer.IsCanonical)
    (inRange : ∀ path, data.Holds path → path.InRange) :
    ∃ settings, data.mergeOrder.foldlM putLayer [] = .ok settings ∧
      IsLatest data.mergeOrder settings :=
  isLatest_foldlM data.mergeOrder
    (fun layer member => (layers layer ((mem_mergeOrder layer).mp member)).sorted)
    (fun layer member =>
      areReadable_of_isSeparate separate inRange ((mem_mergeOrder layer).mp member))

/-- Merging separate layers sets their latest values one after the other. -/
theorem merged_of_isSeparate (separate : data.IsSeparate)
    (layers : ∀ layer ∈ data.layers, layer.IsCanonical)
    (inRange : ∀ path, data.Holds path → path.InRange) :
    ∃ settings, data.merged = .ok (Tree.setEach settings Tree.empty) ∧
      IsLatest data.mergeOrder settings := by
  obtain ⟨settings, puts, latest⟩ := settings_of_isSeparate separate layers inRange
  refine ⟨settings, ?_, latest⟩
  unfold merged
  rw [puts]
  rfl

end Agreement

/-! ### Layers with one key -/

theorem isSeparate_of_single {data : ConfigData} {path : Tree.Path} (canonical : path.IsCanonical)
    (single : ∀ layer ∈ data.layers, ∀ entry ∈ layer.properties,
      path.text = entry.1 ∧ entry.2.value.HasLowerNames) : data.IsSeparate := by
  have isPath (other : Tree.Path) (holds : data.Holds other) : other = path := by
    obtain ⟨otherCanonical, layer, member, property, found⟩ := holds
    exact Tree.Path.text_injective otherCanonical canonical (single layer member _ found).1.symm
  refine ⟨?_, ?_, ?_, ?_⟩
  · intro layer member entry entryMember
    exact ⟨path, canonical, (single layer member entry entryMember).1⟩
  · intro first second firstHolds secondHolds _
    rw [isPath first firstHolds, isPath second secondHolds]
  · intro first second node name index firstHolds secondHolds named placed
    rw [isPath first firstHolds] at named
    rw [isPath second secondHolds] at placed
    obtain ⟨afterName, isNamed⟩ := named
    obtain ⟨afterPosition, isPlaced⟩ := placed
    simp [← isNamed] at isPlaced
  · intro layer member entry entryMember
    exact (single layer member entry entryMember).2

/-! ### Reading where lists are bounded -/

/-- What reading returns does not depend on the room that lists have. -/
theorem deserialize_of_within {α : Type} {capacity : Nat} {data : ConfigData} {read : Tree → Option α}
    {outcome : Except ConfigError α} (returns : data.deserializeWithin? capacity read = some outcome) :
    data.deserialize read = outcome :=
  Option.some.inj (Option.ite_none_right_eq_some.mp returns).2

/-- Where the positions of all keys are in range, merging has room exactly if each of them stands below
the capacity. -/
theorem mergesWithin_iff {data : ConfigData} (separate : data.IsSeparate)
    (layers : ∀ layer ∈ data.layers, layer.IsCanonical)
    (inRange : ∀ path, data.Holds path → path.InRange) (capacity : Nat) :
    data.mergesWithin capacity = true ↔ ∀ path, data.Holds path → path.FitsIn capacity := by
  obtain ⟨settings, puts, latest⟩ := settings_of_isSeparate separate layers inRange
  unfold mergesWithin
  rw [puts]
  dsimp only
  rw [Tree.isSome_foldlM_setWithin?_iff fun setting member =>
    isPlain_of_isCanonical (latest.holds member).1]
  constructor
  · intro fits path holds
    obtain ⟨property, _, member⟩ := latest.get?_of_holds layers holds (inRange path holds)
    exact fits _ member
  · intro fits setting member
    exact fits _ (latest.holds member)

/-- A key that is no path ends merging before any list has grown. -/
theorem mergesWithin_of_not_inRange {data : ConfigData} {path : Tree.Path}
    (holds : data.Holds path) (wide : ¬ path.InRange) (capacity : Nat) :
    data.mergesWithin capacity = true := by
  obtain ⟨culprit, _, fails⟩ := putLayers_of_not_inRange holds wide
  rw [mergesWithin, fails]

/-- The document that the merged layers are read as has at each key what looking the key up gives. -/
theorem reach?_of_deserialize {data : ConfigData} (separate : data.IsSeparate)
    (layers : ∀ layer ∈ data.layers, layer.IsCanonical)
    (inRange : ∀ path, data.Holds path → path.InRange) :
    ∃ document, data.deserialize (fun tree => some tree.toJson) = .ok document ∧
      ∀ path, data.Holds path →
        ∃ property, data.get? path.text = some property ∧
          document.reach? path.descent = some property.value := by
  obtain ⟨settings, merges, latest⟩ := merged_of_isSeparate separate layers inRange
  refine ⟨(Tree.setEach settings Tree.empty).toJson, ?_, ?_⟩
  · unfold deserialize
    rw [merges]
    rfl
  · intro path holds
    obtain ⟨property, found, member⟩ := latest.get?_of_holds layers holds (inRange path holds)
    have reached := Tree.reach?_setEach (latest.independent separate layers)
      (fun setting _ => Tree.vacant_empty setting.1) _ member
    refine ⟨property, found, ?_⟩
    rw [Tree.reach?_toJson, reached, Option.map_some, Tree.toJson_ofJson]

/-- What reading layers as a document comes to, where no list holds more than `capacity` items. -/
structure ReadsAsLooked (data : ConfigData) (capacity : Nat) : Prop where
  /-- Whenever reading returns a document, navigating along a key gives what looking the key up gives. -/
  agrees : ∀ document,
    data.deserializeWithin? capacity (fun tree => some tree.toJson) = some (.ok document) →
      ∀ path, data.Holds path →
        ∃ property, data.get? path.text = some property ∧
          document.reach? path.descent = some property.value
  /-- It returns one when the positions in all keys are in range, and stand below the capacity. -/
  returns : (∀ path, data.Holds path → path.InRange ∧ path.FitsIn capacity) →
    ∃ document,
      data.deserializeWithin? capacity (fun tree => some tree.toJson) = some (.ok document)
  /-- A position that is out of range makes it fail at a layer. -/
  refuses : (∃ path, data.Holds path ∧ ¬ path.InRange) →
    ∃ layer ∈ data.layers, data.deserializeWithin? capacity (fun tree => some tree.toJson) =
      some (.error (.load (.mergeLayer layer.name)))
  /-- With all positions in range, one for which a list has no room lets it return nothing at all. -/
  stops : (∀ path, data.Holds path → path.InRange) →
    (∃ path, data.Holds path ∧ ¬ path.FitsIn capacity) →
      data.deserializeWithin? capacity (fun tree => some tree.toJson) = none

/-- Whenever reading the merged layers of an environment returns a document, navigating along a key of
any layer gives the value that looking the key up gives. -/
theorem deserialize_eq_get? (environment : Environment) (accepted : List String)
    (canonical : environment.IsCanonical)
    (separate : (assemble environment accepted).IsSeparate) (capacity : Nat) :
    (assemble environment accepted).ReadsAsLooked capacity := by
  have layers : ∀ layer ∈ (assemble environment accepted).layers, layer.IsCanonical :=
    fun _ member => isCanonical_of_mem_assemble canonical accepted member
  refine ⟨?_, ?_, ?_, ?_⟩
  · intro document reads
    have reading := deserialize_of_within reads
    by_cases wide : ∃ path, (assemble environment accepted).Holds path ∧ ¬ path.InRange
    · obtain ⟨path, holds, notInRange⟩ := wide
      obtain ⟨layer, _, fails⟩ := deserialize_of_not_inRange (assemble environment accepted)
        (fun tree => some tree.toJson) holds notInRange
      rw [fails] at reading
      cases reading
    · have inRange : ∀ path, (assemble environment accepted).Holds path → path.InRange := by
        simpa using wide
      obtain ⟨other, isOther, agrees⟩ := reach?_of_deserialize separate layers inRange
      rw [isOther] at reading
      cases reading
      exact agrees
  · intro fits
    obtain ⟨document, reads, _⟩ :=
      reach?_of_deserialize separate layers fun path holds => (fits path holds).1
    have room := (mergesWithin_iff separate layers (fun path holds => (fits path holds).1)
      capacity).mpr fun path holds => (fits path holds).2
    exact ⟨document, by rw [deserializeWithin?, if_pos room, reads]⟩
  · rintro ⟨path, holds, wide⟩
    obtain ⟨layer, member, fails⟩ := deserialize_of_not_inRange (assemble environment accepted)
      (fun tree => some tree.toJson) holds wide
    refine ⟨layer, member, ?_⟩
    rw [deserializeWithin?, if_pos (mergesWithin_of_not_inRange holds wide capacity), fails]
  · rintro inRange ⟨path, holds, noRoom⟩
    refine if_neg fun room => noRoom ?_
    exact (mergesWithin_iff separate layers inRange capacity).mp room path holds

/-- An environment with one key, which two sources have. -/
def sharedKey : Environment :=
  ⟨"app", [], none, none, none,
    [⟨"app-dev.yml", [("server.ports[0]", .bool true)]⟩,
      ⟨"app.yml", [("server.ports[0]", .string "8080")]⟩]⟩

/-- The text in which a server has sent that environment. -/
def sharedKeyText : String :=
  "\x7b\"name\":\"app\",\"propertySources\":["
    ++ "\x7b\"name\":\"app-dev.yml\",\"source\":\x7b\"server.ports[0]\":true\x7d\x7d,"
    ++ "\x7b\"name\":\"app.yml\",\"source\":\x7b\"server.ports[0]\":\"8080\"\x7d\x7d]\x7d"

theorem parse?_sharedKeyText : Environment.parse? sharedKeyText = some sharedKey := by
  cbv

def sharedPath : Tree.Path := ⟨"server", [.child "ports", .position 0]⟩

private theorem sharedPath_isCanonical : sharedPath.IsCanonical := by
  refine ⟨⟨by decide, List.all_eq_true.mp (by decide)⟩, ?_⟩
  intro step member
  simp only [sharedPath, List.mem_cons, List.not_mem_nil, or_false] at member
  rcases member with rfl | rfl
  · exact ⟨by decide, List.all_eq_true.mp (by decide)⟩
  · exact Int.le_refl 0

private theorem sharedKey_entries {layer : Layer}
    (member : layer ∈ (assemble sharedKey ["dev"]).layers) :
    ∀ entry ∈ layer.properties, sharedPath.text = entry.1 ∧ entry.2.value.HasLowerNames := by
  have isText : sharedPath.text = "server.ports[0]" := by decide
  simp only [assemble, sharedKey, List.mem_cons, List.mem_reverse, List.mem_map, List.not_mem_nil,
    or_false] at member
  rcases member with rfl | ⟨source, rfl | rfl, rfl⟩
  · simp [markerLayer, Text.nonBlank]
  · simp [servedLayer, PropertySource.tracked, PropertyValue.ofServed, PropertyValue.value, isText,
      Json.HasLowerNames]
  · simp [servedLayer, PropertySource.tracked, PropertyValue.ofServed, PropertyValue.value, isText,
      Json.HasLowerNames]

/-- The readings of the environment with the shared key agree, where a list has room for an item; where
it has none, reading does not return. -/
theorem deserialize_sharedKey :
    Environment.parse? sharedKeyText = some sharedKey ∧ sharedKey.IsCanonical ∧
      (assemble sharedKey ["dev"]).IsSeparate ∧
      (∃ document, (assemble sharedKey ["dev"]).deserializeWithin? 1 (fun tree => some tree.toJson) =
          some (.ok document) ∧
        ∀ path, (assemble sharedKey ["dev"]).Holds path →
          ∃ property, (assemble sharedKey ["dev"]).get? path.text = some property ∧
            document.reach? path.descent = some property.value) ∧
      (assemble sharedKey ["dev"]).deserializeWithin? 0 (fun tree => some tree.toJson) = none := by
  have canonical := Environment.isCanonical_of_parse? parse?_sharedKeyText
  have separate : (assemble sharedKey ["dev"]).IsSeparate :=
    isSeparate_of_single sharedPath_isCanonical fun layer member => sharedKey_entries member
  have isShared (path : Tree.Path) (holds : (assemble sharedKey ["dev"]).Holds path) :
      path = sharedPath := by
    obtain ⟨isCanonical, layer, member, property, found⟩ := holds
    exact Tree.Path.text_injective isCanonical sharedPath_isCanonical
      (sharedKey_entries member _ found).1.symm
  have holds : (assemble sharedKey ["dev"]).Holds sharedPath := by
    have isText : sharedPath.text = "server.ports[0]" := by decide
    refine ⟨sharedPath_isCanonical,
      servedLayer (Profile.patterns ["dev"]) ⟨"app.yml", [(sharedPath.text, .string "8080")]⟩, ?_,
      .raw (.string "8080"), ?_⟩
    · simp [assemble, sharedKey, isText]
    · simp [servedLayer, PropertySource.tracked, PropertyValue.ofServed]
  have oneItem := deserialize_eq_get? sharedKey ["dev"] canonical separate 1
  have noItem := deserialize_eq_get? sharedKey ["dev"] canonical separate 0
  obtain ⟨document, reads⟩ := oneItem.returns fun path isHeld => by
    rw [isShared path isHeld]
    decide
  refine ⟨parse?_sharedKeyText, canonical, separate,
    ⟨document, reads, oneItem.agrees document reads⟩, noItem.stops ?_ ⟨_, holds, by decide⟩⟩
  intro path isHeld
  rw [isShared path isHeld]
  decide

/-- An environment whose only key has a position beyond 64 bits. -/
def widePosition : Environment :=
  ⟨"application", [], none, none, none, [⟨"s", [("a[9223372036854775808]", .bool true)]⟩]⟩

def widePath : Tree.Path := ⟨"a", [.position 9223372036854775808]⟩

/-- Canonical keys alone do not suffice: the layers with the wide position cannot be read,
whatever room lists have. -/
theorem deserialize_widePosition :
    widePosition.IsCanonical ∧ (assemble widePosition []).IsSeparate ∧
      ∀ capacity, ¬ ∃ document,
        (assemble widePosition []).deserializeWithin? capacity (fun tree => some tree.toJson) =
          some (.ok document) := by
  have isText : widePath.text = "a[9223372036854775808]" := by decide
  have canonical : widePath.IsCanonical := by
    refine ⟨⟨by decide, List.all_eq_true.mp (by decide)⟩, ?_⟩
    intro step member
    simp only [widePath, List.mem_cons, List.not_mem_nil, or_false] at member
    subst member
    exact (by decide : (0 : Int) ≤ 9223372036854775808)
  refine ⟨?_, isSeparate_of_single canonical ?_, ?_⟩
  · intro source member
    simp only [widePosition, List.mem_cons, List.not_mem_nil, or_false] at member
    subst member
    rfl
  · intro layer member
    simp only [assemble, widePosition, List.mem_cons, List.mem_reverse, List.mem_map,
      List.not_mem_nil, or_false] at member
    rcases member with rfl | ⟨source, rfl, rfl⟩
    · simp [markerLayer, Text.nonBlank]
    · simp [servedLayer, PropertySource.tracked, PropertyValue.ofServed, PropertyValue.value,
        isText, Json.HasLowerNames]
  · rintro capacity ⟨document, reads⟩
    have holds : (assemble widePosition []).Holds widePath := by
      refine ⟨canonical, servedLayer (Profile.patterns []) ⟨"s", [(widePath.text, .bool true)]⟩,
        ?_, .raw (.bool true), ?_⟩
      · simp [assemble, widePosition, isText]
      · simp [servedLayer, PropertySource.tracked, PropertyValue.ofServed]
    obtain ⟨layer, _, fails⟩ := deserialize_of_not_inRange (assemble widePosition [])
      (fun tree => some tree.toJson) holds (by decide)
    rw [deserialize_of_within reads] at fails
    cases fails

end ConfigData

end RemoteConfig
