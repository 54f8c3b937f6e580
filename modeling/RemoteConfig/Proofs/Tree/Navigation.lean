import RemoteConfig.Proofs.Json.Canonical
import RemoteConfig.Tree.Path

/-!
Contract: what is reached by steps down a tree of settings, and down its document.

Owns:
- following steps, in a tree and in a document;
- a document passes through the tree unchanged, and steps lead to the same values in both.

Does not own: what setting a value changes.
-/

namespace RemoteConfig

/-- The value that steps lead to in a document: fields of objects, and positions in lists that are
counted from the start. -/
def Json.reach? : List Tree.Step → Json → Option Json
  | [], value => some value
  | .child name :: rest, .object fields => (Fields.get? name fields).bind (Json.reach? rest)
  | .position index :: rest, .array items =>
    if 0 ≤ index then items[index.toNat]?.bind (Json.reach? rest) else none
  | _ :: _, _ => none

namespace Tree

/-- The value that steps lead to in a tree. -/
def reach? : List Step → Tree → Option Tree
  | [], value => some value
  | .child name :: rest, .table entries => (Fields.get? name entries).bind (reach? rest)
  | .position index :: rest, .list items =>
    if 0 ≤ index then items[index.toNat]?.bind (reach? rest) else Option.none
  | _ :: _, _ => Option.none

/-! ### Documents of trees -/

theorem itemsToJson_eq_map (items : List Tree) : itemsToJson items = items.map toJson := by
  induction items with
  | nil => rfl
  | cons item rest inductionHypothesis => rw [itemsToJson, inductionHypothesis, List.map_cons]

theorem entriesToJson_eq_map (entries : List (String × Tree)) :
    entriesToJson entries = entries.map fun entry => (entry.1, toJson entry.2) := by
  induction entries with
  | nil => rfl
  | cons entry rest inductionHypothesis =>
      rw [entriesToJson, inductionHypothesis, List.map_cons]

theorem ofFields_eq_map (fields : List (String × Json)) :
    ofFields fields = fields.map fun field => (field.1, ofJson field.2) := by
  induction fields with
  | nil => rfl
  | cons field rest inductionHypothesis => rw [ofFields, inductionHypothesis, List.map_cons]

theorem toJson_integer {value : Int}
    (inRange : Number.least64 ≤ value ∧ value ≤ Number.greatestUnsigned64) :
    toJson (.integer value) = .number (.integer value inRange) := by
  simp [toJson, Json.ofInt, Json.Number.ofInt?, inRange]

theorem toJson_double {value : Binary64} (finite : value.isFinite = true) :
    toJson (.double value) = .number (.double value finite) := by
  simp [toJson, Json.ofDouble, Json.Number.ofDouble?, finite]

mutual

/-- A document passes through the tree unchanged. -/
theorem toJson_ofJson : ∀ value : Json, toJson (ofJson value) = value
  | .null | .bool _ | .string _ => rfl
  | .number (.integer _ inRange) => toJson_integer inRange
  | .number (.double _ finite) => toJson_double finite
  | .array items => by rw [ofJson, toJson, itemsToJson_ofItems items]
  | .object fields => by rw [ofJson, toJson, entriesToJson_ofFields fields]

theorem itemsToJson_ofItems : ∀ items : List Json, itemsToJson (ofItems items) = items
  | [] => rfl
  | item :: rest => by
      rw [ofItems, itemsToJson, toJson_ofJson item, itemsToJson_ofItems rest]

theorem entriesToJson_ofFields :
    ∀ fields : List (String × Json), entriesToJson (ofFields fields) = fields
  | [] => rfl
  | (_, value) :: rest => by
      rw [ofFields, entriesToJson, toJson_ofJson value, entriesToJson_ofFields rest]

end

/-! ### Following steps -/

theorem reach?_child (name : String) (rest : List Step) (tree : Tree) :
    tree.reach? (.child name :: rest) = (Fields.get? name tree.entries).bind (reach? rest) := by
  cases tree <;> rfl

theorem reach?_position {index : Int} (fromStart : 0 ≤ index) (rest : List Step) (tree : Tree) :
    tree.reach? (.position index :: rest) = tree.items[index.toNat]?.bind (reach? rest) := by
  cases tree <;> simp [reach?, items, fromStart]

/-- Nothing is reached below an empty place. -/
theorem reach?_none {steps : List Step} (downward : steps ≠ []) :
    reach? steps .none = Option.none := by
  cases steps with
  | nil => exact absurd rfl downward
  | cons step rest => cases step <;> rfl

private theorem reach?_number (number : Json.Number) (step : Step) (rest : List Step) :
    (Json.number number).reach? (step :: rest) = Option.none := by
  cases step <;> rfl

private theorem reach?_null (step : Step) (rest : List Step) :
    Json.null.reach? (step :: rest) = Option.none := by
  cases step <;> rfl

/-- Steps lead to the same values in a tree and in its document. -/
theorem reach?_toJson (steps : List Step) (tree : Tree) :
    tree.toJson.reach? steps = (tree.reach? steps).map toJson := by
  induction steps generalizing tree with
  | nil => rfl
  | cons step rest inductionHypothesis =>
      have below : Json.reach? rest ∘ toJson = Option.map toJson ∘ reach? rest :=
        funext inductionHypothesis
      cases tree with
      | none => cases step <;> rfl
      | bool value => cases step <;> rfl
      | string value => cases step <;> rfl
      | integer value =>
          have isLeaf : (toJson (.integer value)).reach? (step :: rest) = Option.none := by
            unfold toJson Json.ofInt
            split
            · exact reach?_number ..
            · exact reach?_null ..
          rw [isLeaf]
          cases step <;> rfl
      | double value =>
          have isLeaf : (toJson (.double value)).reach? (step :: rest) = Option.none := by
            unfold toJson Json.ofDouble
            split
            · exact reach?_number ..
            · exact reach?_null ..
          rw [isLeaf]
          cases step <;> rfl
      | list items =>
          cases step with
          | child name => rfl
          | position index =>
              rw [toJson, itemsToJson_eq_map, Json.reach?, reach?]
              split
              · rw [List.getElem?_map, Option.bind_map, below, Option.map_bind]
              · rfl
      | table entries =>
          cases step with
          | child name =>
              rw [toJson, entriesToJson_eq_map, Json.reach?, reach?, Fields.get?_map,
                Option.bind_map, below, Option.map_bind]
          | position index => rfl

end Tree

end RemoteConfig
