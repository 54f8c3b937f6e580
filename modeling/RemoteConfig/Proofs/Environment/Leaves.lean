import RemoteConfig.Environment.Flatten
import RemoteConfig.Environment.Origin
import RemoteConfig.Proofs.Json.Canonical
import RemoteConfig.Proofs.Tree.PathText
import RemoteConfig.Proofs.Tree.Writes

/-!
Contract: the leaves of a document and the steps that lead to them.

Owns:
- the leaves of a document by their steps, which are pairwise different when names are;
- the text of steps behind a path, and that flattening writes the leaves under these texts;
- a leaf is never an object, and is served without an origin;
- the documents that flattening loses nothing of: names are small, and no object is empty.

Does not own: reading the texts back, and documents with leaves under one text.
-/

namespace RemoteConfig

namespace Json

mutual

/-- The leaves of a document with the steps that lead to them, in document order. -/
def leaves : Json → List (List Tree.Step × Json)
  | .object fields => fieldLeaves fields
  | .array [] => [([], .array [])]
  | .array (item :: rest) => itemLeaves 0 (item :: rest)
  | .null => [([], .null)]
  | .bool value => [([], .bool value)]
  | .number value => [([], .number value)]
  | .string value => [([], .string value)]

def fieldLeaves : List (String × Json) → List (List Tree.Step × Json)
  | [] => []
  | (name, value) :: rest =>
    (leaves value).map (fun leaf => (.child name :: leaf.1, leaf.2)) ++ fieldLeaves rest

def itemLeaves (position : Nat) : List Json → List (List Tree.Step × Json)
  | [] => []
  | item :: rest =>
    (leaves item).map (fun leaf => (.position position :: leaf.1, leaf.2)) ++
      itemLeaves (position + 1) rest

end

theorem fieldLeaves_eq_flatMap (fields : List (String × Json)) :
    fieldLeaves fields = fields.flatMap fun field =>
      field.2.leaves.map fun leaf => (.child field.1 :: leaf.1, leaf.2) := by
  induction fields with
  | nil => rfl
  | cons field rest inductionHypothesis =>
      rw [fieldLeaves, inductionHypothesis, List.flatMap_cons]

theorem mem_fieldLeaves {fields : List (String × Json)} {leaf : List Tree.Step × Json} :
    leaf ∈ fieldLeaves fields ↔ ∃ field ∈ fields, ∃ inner ∈ field.2.leaves,
      (.child field.1 :: inner.1, inner.2) = leaf := by
  simp [fieldLeaves_eq_flatMap]

theorem mem_itemLeaves {items : List Json} {position : Nat} {leaf : List Tree.Step × Json} :
    leaf ∈ itemLeaves position items ↔ ∃ index item, items[index]? = some item ∧
      ∃ inner ∈ item.leaves, (.position (position + index : Nat) :: inner.1, inner.2) = leaf := by
  induction items generalizing position with
  | nil => simp [itemLeaves]
  | cons item rest inductionHypothesis =>
      rw [itemLeaves, List.mem_append, inductionHypothesis, List.mem_map]
      constructor
      · rintro (⟨inner, isLeaf, rfl⟩ | ⟨index, other, found, inner, isLeaf, rfl⟩)
        · exact ⟨0, item, rfl, inner, isLeaf, rfl⟩
        · refine ⟨index + 1, other, by simpa using found, inner, isLeaf, ?_⟩
          rw [Nat.add_right_comm, Nat.add_assoc]
      · rintro ⟨index, other, found, inner, isLeaf, rfl⟩
        cases index with
        | zero =>
            rw [List.getElem?_cons_zero, Option.some.injEq] at found
            exact .inl ⟨inner, found ▸ isLeaf, rfl⟩
        | succ index =>
            refine .inr ⟨index, other, by simpa using found, inner, isLeaf, ?_⟩
            rw [Nat.add_right_comm, Nat.add_assoc]

/-! ### Leaves apart -/

mutual

/-- Different leaves of a canonical document are reached by different steps. -/
theorem pairwise_leaves : ∀ (document : Json), document.canonical = document →
    document.leaves.Pairwise fun first second => first.1 ≠ second.1
  | .object fields, isCanonical =>
      pairwise_fieldLeaves fields (isSorted_of_canonical isCanonical)
        fun _ => canonical_of_mem_fields isCanonical
  | .array [], _ => List.pairwise_singleton _ _
  | .array (item :: rest), isCanonical =>
      pairwise_itemLeaves 0 (item :: rest) fun _ => canonical_of_mem_items isCanonical
  | .null, _ | .bool _, _ | .number _, _ | .string _, _ => List.pairwise_singleton _ _

theorem pairwise_fieldLeaves : ∀ (fields : List (String × Json)), Fields.IsSorted fields →
    (∀ field ∈ fields, field.2.canonical = field.2) →
    (fieldLeaves fields).Pairwise fun first second => first.1 ≠ second.1
  | [], _, _ => List.Pairwise.nil
  | (name, value) :: rest, sorted, canonical => by
      obtain ⟨below, restSorted⟩ := List.pairwise_cons.mp sorted
      obtain ⟨valueCanonical, restCanonical⟩ := List.forall_mem_cons.mp canonical
      refine List.pairwise_append.mpr ⟨?_, ?_, ?_⟩
      · refine List.pairwise_map.mpr ((pairwise_leaves value valueCanonical).imp ?_)
        intro first second apart same
        exact apart (List.cons.inj same).2
      · exact pairwise_fieldLeaves rest restSorted restCanonical
      · intro first firstMember second secondMember same
        obtain ⟨_, _, rfl⟩ := List.mem_map.mp firstMember
        obtain ⟨field, member, _, _, rfl⟩ := mem_fieldLeaves.mp secondMember
        have sameName : name = field.1 := Tree.Step.child.inj (List.cons.inj same).1
        exact String.lt_irrefl _ (sameName ▸ below field member)

theorem pairwise_itemLeaves (position : Nat) : ∀ (items : List Json),
    (∀ item ∈ items, item.canonical = item) →
    (itemLeaves position items).Pairwise fun first second => first.1 ≠ second.1
  | [], _ => List.Pairwise.nil
  | item :: rest, canonical => by
      obtain ⟨itemCanonical, restCanonical⟩ := List.forall_mem_cons.mp canonical
      refine List.pairwise_append.mpr ⟨?_, ?_, ?_⟩
      · refine List.pairwise_map.mpr ((pairwise_leaves item itemCanonical).imp ?_)
        intro first second apart same
        exact apart (List.cons.inj same).2
      · exact pairwise_itemLeaves (position + 1) rest restCanonical
      · intro first firstMember second secondMember same
        obtain ⟨_, _, rfl⟩ := List.mem_map.mp firstMember
        obtain ⟨index, _, _, _, _, rfl⟩ := mem_itemLeaves.mp secondMember
        have samePosition := Tree.Step.position.inj (List.cons.inj same).1
        omega

end

/-! ### Leaves and nodes -/

/-- Neither an object nor a list with items. -/
def IsLeaf : Json → Prop
  | .object _ => False
  | .array items => items = []
  | _ => True

mutual

theorem isLeaf_of_mem_leaves : ∀ (document : Json), ∀ leaf ∈ document.leaves, leaf.2.IsLeaf
  | .object fields => isLeaf_of_mem_fieldLeaves fields
  | .array [] => by simp [leaves, IsLeaf]
  | .array (item :: rest) => isLeaf_of_mem_itemLeaves 0 (item :: rest)
  | .null | .bool _ | .number _ | .string _ => by simp [leaves, IsLeaf]

theorem isLeaf_of_mem_fieldLeaves :
    ∀ (fields : List (String × Json)), ∀ leaf ∈ fieldLeaves fields, leaf.2.IsLeaf
  | [], _, member => by cases member
  | (name, value) :: rest, leaf, member => by
      rcases List.mem_append.mp member with first | later
      · obtain ⟨inner, isLeaf, rfl⟩ := List.mem_map.mp first
        exact isLeaf_of_mem_leaves value inner isLeaf
      · exact isLeaf_of_mem_fieldLeaves rest leaf later

theorem isLeaf_of_mem_itemLeaves (position : Nat) :
    ∀ (items : List Json), ∀ leaf ∈ itemLeaves position items, leaf.2.IsLeaf
  | [], _, member => by cases member
  | item :: rest, leaf, member => by
      rcases List.mem_append.mp member with first | later
      · obtain ⟨inner, isLeaf, rfl⟩ := List.mem_map.mp first
        exact isLeaf_of_mem_leaves item inner isLeaf
      · exact isLeaf_of_mem_itemLeaves (position + 1) rest leaf later

end

/-! ### Documents that flattening loses nothing of -/

mutual

/-- Objects have fields, with small names. The positions in lists fit into 64 bits, as they do in
every list that memory can hold. -/
def IsRestorable : Json → Prop
  | .object fields => fields ≠ [] ∧ AreRestorable fields
  | .array items => (items.length : Int) ≤ Number.greatest64 ∧ itemsAreRestorable items
  | _ => True

def AreRestorable : List (String × Json) → Prop
  | [] => True
  | (name, value) :: rest => Tree.IsSmallName name ∧ value.IsRestorable ∧ AreRestorable rest

def itemsAreRestorable : List Json → Prop
  | [] => True
  | item :: rest => item.IsRestorable ∧ itemsAreRestorable rest

end

theorem areRestorable_iff {fields : List (String × Json)} :
    AreRestorable fields ↔
      ∀ field ∈ fields, Tree.IsSmallName field.1 ∧ field.2.IsRestorable := by
  induction fields with
  | nil => simp [AreRestorable]
  | cons field rest inductionHypothesis =>
      rw [AreRestorable, inductionHypothesis, List.forall_mem_cons, and_assoc]

mutual

/-- A document without empty objects has a leaf. -/
theorem leaves_ne_nil : ∀ (document : Json), document.IsRestorable → document.leaves ≠ []
  | .object [], restorable => absurd rfl restorable.1
  | .object ((_, value) :: _), restorable => by
      obtain ⟨_, _, valueRestorable, _⟩ := restorable
      simp [leaves, fieldLeaves, leaves_ne_nil value valueRestorable]
  | .array [], _ => by simp [leaves]
  | .array (item :: _), restorable => by
      obtain ⟨_, itemRestorable, _⟩ := restorable
      simp [leaves, itemLeaves, leaves_ne_nil item itemRestorable]
  | .null, _ | .bool _, _ | .number _, _ | .string _, _ => by simp [leaves]

end

mutual

/-- The steps to the leaves are canonical, and their positions fit. -/
theorem steps_of_mem_leaves : ∀ (document : Json), document.IsRestorable →
    ∀ leaf ∈ document.leaves, ∀ step ∈ leaf.1, step.IsCanonical ∧ step.InRange
  | .object fields, restorable => steps_of_mem_fieldLeaves fields restorable.2
  | .array [], _ => by simp [leaves]
  | .array (item :: rest), restorable => by
      obtain ⟨fits, itemsRestorable⟩ := restorable
      exact steps_of_mem_itemLeaves 0 (item :: rest) (by rwa [Nat.zero_add]) itemsRestorable
  | .null, _ | .bool _, _ | .number _, _ | .string _, _ => by simp [leaves]

theorem steps_of_mem_fieldLeaves : ∀ (fields : List (String × Json)), AreRestorable fields →
    ∀ leaf ∈ fieldLeaves fields, ∀ step ∈ leaf.1, step.IsCanonical ∧ step.InRange
  | [], _, _, member => by cases member
  | (name, value) :: rest, restorable, leaf, member => by
      obtain ⟨small, valueRestorable, restRestorable⟩ := restorable
      rcases List.mem_append.mp member with first | later
      · obtain ⟨inner, isLeaf, rfl⟩ := List.mem_map.mp first
        exact List.forall_mem_cons.mpr
          ⟨⟨small, trivial⟩, steps_of_mem_leaves value valueRestorable inner isLeaf⟩
      · exact steps_of_mem_fieldLeaves rest restRestorable leaf later

theorem steps_of_mem_itemLeaves (position : Nat) : ∀ (items : List Json),
    ((position + items.length : Nat) : Int) ≤ Number.greatest64 → itemsAreRestorable items →
    ∀ leaf ∈ itemLeaves position items, ∀ step ∈ leaf.1, step.IsCanonical ∧ step.InRange
  | [] => by simp [itemLeaves]
  | item :: rest => by
      rintro fits ⟨itemRestorable, restRestorable⟩ leaf member
      rw [List.length_cons] at fits
      rcases List.mem_append.mp member with first | later
      · obtain ⟨inner, isLeaf, rfl⟩ := List.mem_map.mp first
        have fromStart : (0 : Int) ≤ (position : Nat) := Int.natCast_nonneg position
        have inRange : ((position : Nat) : Int) ≤ Number.greatest64 := by omega
        exact List.forall_mem_cons.mpr
          ⟨⟨fromStart, inRange⟩, steps_of_mem_leaves item itemRestorable inner isLeaf⟩
      · exact steps_of_mem_itemLeaves (position + 1) rest (by omega) restRestorable leaf later

end

/-! ### The paths of an object -/

/-- The leaves of an object by their paths. -/
def settings (fields : List (String × Json)) : List (Tree.Path × Json) :=
  fields.flatMap fun field => field.2.leaves.map fun leaf => (⟨field.1, leaf.1⟩, leaf.2)

theorem descents_settings (fields : List (String × Json)) :
    (settings fields).map (fun setting => (setting.1.descent, setting.2)) = fieldLeaves fields := by
  rw [settings, fieldLeaves_eq_flatMap, List.map_flatMap]
  simp only [List.map_map]
  rfl

end Json

namespace Flatten

/-- The text of steps behind a path. -/
def written (path : String) : List Tree.Step → String
  | [] => path
  | .child name :: rest => written (childPath path name) rest
  | .position index :: rest => written (itemPath path index.toNat) rest

mutual

/-- Flattening writes each leaf under the text of its steps. -/
theorem leaves_eq (path : String) : ∀ document : Json,
    leaves path document = document.leaves.map fun leaf => (written path leaf.1, leaf.2)
  | .object fields => fieldLeaves_eq path fields
  | .array [] => rfl
  | .array (item :: rest) => itemLeaves_eq path 0 (item :: rest)
  | .null | .bool _ | .number _ | .string _ => rfl

theorem fieldLeaves_eq (path : String) : ∀ fields : List (String × Json),
    fieldLeaves path fields =
      (Json.fieldLeaves fields).map fun leaf => (written path leaf.1, leaf.2)
  | [] => rfl
  | (name, value) :: rest => by
      rw [fieldLeaves, Json.fieldLeaves, leaves_eq (childPath path name) value,
        fieldLeaves_eq path rest, List.map_append, List.map_map]
      rfl

theorem itemLeaves_eq (path : String) (position : Nat) : ∀ items : List Json,
    itemLeaves path position items =
      (Json.itemLeaves position items).map fun leaf => (written path leaf.1, leaf.2)
  | [] => rfl
  | item :: rest => by
      rw [itemLeaves, Json.itemLeaves, leaves_eq (itemPath path position) item,
        itemLeaves_eq path (position + 1) rest, List.map_append, List.map_map]
      rfl

end

/-- Behind a name steps have the text that they have in a path. -/
theorem written_eq_text {name : String} (nonempty : name ≠ "") (steps : List Tree.Step) :
    written name steps = (Tree.Path.mk name steps).text := by
  induction steps generalizing name with
  | nil => simp [written, Tree.Path.text]
  | cons step rest inductionHypothesis =>
      cases step with
      | child below =>
          have isBelow : childPath name below = name ++ "." ++ below := by
            simp [childPath, nonempty]
          rw [written, isBelow, inductionHypothesis (by simp)]
          simp [Tree.Path.text, Tree.Step.characters]
      | position index =>
          rw [written, itemPath, inductionHypothesis (by simp)]
          simp [Tree.Path.text, Tree.Step.characters]

end Flatten

/-- A flat map holds leaves only. -/
theorem isLeaf_of_mem_flatten {document : Json} {field : String × Json}
    (member : field ∈ flatten document) : field.2.IsLeaf := by
  have written := Fields.mem_of_mem_ofList member
  rw [Flatten.leaves_eq, List.mem_map] at written
  obtain ⟨leaf, isLeaf, rfl⟩ := written
  exact Json.isLeaf_of_mem_leaves document leaf isLeaf

/-- A value that is no object is served without an origin. -/
theorem PropertyValue.ofServed_of_isLeaf {value : Json} (isLeaf : value.IsLeaf)
    (sourceName : String) : PropertyValue.ofServed sourceName value = .raw value := by
  cases value with
  | object fields => exact isLeaf.elim
  | _ => rfl

/-- The flat map of an object holds its leaves under the texts of their paths. -/
theorem flatten_object {fields : List (String × Json)} (named : ∀ field ∈ fields, field.1 ≠ "") :
    flatten (.object fields) =
      Fields.ofList ((Json.settings fields).map fun setting => (setting.1.text, setting.2)) := by
  rw [flatten, Flatten.leaves_eq, Json.leaves, Json.fieldLeaves_eq_flatMap, Json.settings,
    List.map_flatMap, List.map_flatMap]
  have sameTexts (field : String × Json) (member : field ∈ fields) :
      (field.2.leaves.map fun leaf => (Tree.Step.child field.1 :: leaf.1, leaf.2)).map
          (fun leaf => (Flatten.written "" leaf.1, leaf.2)) =
        (field.2.leaves.map fun leaf => (Tree.Path.mk field.1 leaf.1, leaf.2)).map
          fun setting => (setting.1.text, setting.2) := by
    have atRoot : Flatten.childPath "" field.1 = field.1 := rfl
    simp [Flatten.written, atRoot, Flatten.written_eq_text (named field member)]
  rw [List.flatMap_def, List.flatMap_def, List.map_congr_left sameTexts]

end RemoteConfig
