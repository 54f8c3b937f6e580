import RemoteConfig.Proofs.Tree.Keys
import RemoteConfig.Proofs.Tree.Variables

/-!
Contract: the layers of one setting: its variables, the file beneath them, and its default.

Owns:
- the variables that are for a setting, and those that spare it;
- `reach?_apply`: what stands at the place of a setting once all variables are set;
- settings: their names, how they are read, and their place in a record.

Does not own: which settings there are.
-/

namespace RemoteConfig

namespace Variables

/-! ### The keys of variables -/

/-- Is a variable read under a start? -/
def isRead (start spelled : String) : Bool :=
  (marker start).isPrefixOf (Text.lowercase spelled).toList

/-- The key of a variable that is read. -/
def keyOf (start spelled : String) : String :=
  String.ofList (dotted ((Text.lowercase spelled).toList.drop (marker start).length))

theorem setting?_eq (start : String) (listKeys : List String) (spelled text : String) :
    setting? start listKeys spelled text =
      if isRead start spelled then
        some (keyOf start spelled, meaning listKeys (keyOf start spelled) text)
      else none :=
  rfl

-- Unfolding these would lower-case the start character by character.
attribute [irreducible] isRead keyOf

/-- The tree with the value of one variable set in it. -/
def assign (start : String) (listKeys : List String) (tree : Tree) (entry : String × String) : Tree :=
  if isRead start entry.1 then
    tree.setWritten (keyOf start entry.1) (meaning listKeys (keyOf start entry.1) entry.2)
  else tree

theorem apply_cons (start : String) (listKeys : List String) (entry : String × String)
    (exported : Variables) (tree : Tree) :
    apply start listKeys (entry :: exported) tree =
      apply start listKeys exported (assign start listKeys tree entry) := by
  unfold apply assign
  rw [List.filterMap_cons]
  dsimp only
  rw [setting?_eq]
  cases isRead start entry.1 <;> rfl

theorem apply_filter_isRead (start : String) (listKeys : List String) (exported : Variables)
    (tree : Tree) :
    apply start listKeys (exported.filter fun entry => isRead start entry.1) tree =
      apply start listKeys exported tree := by
  induction exported generalizing tree with
  | nil => rfl
  | cons entry rest inductionHypothesis =>
      rw [List.filter_cons, apply_cons]
      cases isOwn : isRead start entry.1 with
      | true =>
          rw [if_pos rfl, apply_cons]
          exact inductionHypothesis _
      | false =>
          have same : assign start listKeys tree entry = tree := by simp [assign, isOwn]
          rw [same]
          exact inductionHypothesis tree

theorem meaning_ne_table (listKeys : List String) (key text : String) :
    ∀ entries, meaning listKeys key text ≠ .table entries := by
  intro entries same
  unfold meaning at same
  dsimp only at same
  repeat' split at same
  all_goals cases same

/-! ### The variables of a setting -/

/-- A variable is for a setting: it spells its names. -/
structure IsFor (start : String) (names : List String) (spelled : String) : Prop where
  steps : ∀ name ∈ names, IsStepName name
  spells : Spells start names spelled

instance (start : String) (names : List String) (spelled : String) :
    Decidable (IsFor start names spelled) :=
  decidable_of_iff ((∀ name ∈ names, IsStepName name) ∧ Spells start names spelled)
    ⟨fun both => ⟨both.1, both.2⟩, fun isFor => ⟨isFor.steps, isFor.spells⟩⟩

/-- A variable spares a setting: it is not read, or its place parts from that of the setting. -/
structure Spares (start : String) (names : List String) (spelled : String) : Prop where
  apart : isRead start spelled = true →
    Tree.Part (Tree.place (keyOf start spelled)) (Tree.named names)

instance (start : String) (names : List String) (spelled : String) :
    Decidable (Spares start names spelled) :=
  decidable_of_iff (isRead start spelled = true →
      Tree.Part (Tree.place (keyOf start spelled)) (Tree.named names))
    ⟨fun apart => ⟨apart⟩, fun spares => spares.apart⟩

/-- Every variable is for a setting or spares it. -/
def IsClear (start : String) (names : List String) (exported : Variables) : Prop :=
  ∀ entry ∈ exported, IsFor start names entry.1 ∨ Spares start names entry.1

instance (start : String) (names : List String) (exported : Variables) :
    Decidable (IsClear start names exported) :=
  List.decidableBAll _ exported

/-- The text of the last variable that is for a setting. -/
def lastText? (start : String) (names : List String) : Variables → Option String
  | [] => none
  | entry :: rest =>
    lastText? start names rest <|> if IsFor start names entry.1 then some entry.2 else none

/-- What a setting is given: by its last variable, or else by the tree beneath the variables. -/
def given? (start : String) (listKeys names : List String) (exported : Variables) (tree : Tree) :
    Option Tree :=
  match lastText? start names exported with
  | some text => some (meaning listKeys (Text.join "." names) text)
  | none => tree.reach? (Tree.named names)

section Setting

variable {start : String} {names : List String} (nonempty : names ≠ []) {spelled : String}
  {exported : Variables}

include nonempty

theorem IsFor.leads (isFor : IsFor start names spelled) :
    isRead start spelled = true ∧ keyOf start spelled = Text.join "." names ∧
      Tree.place (keyOf start spelled) = Tree.named names := by
  have steps := isFor.steps
  have read := setting?_of_spells steps isFor.spells [] ""
  rw [setting?_eq] at read
  obtain ⟨isOwn, same⟩ := Option.ite_none_right_eq_some.mp read
  have isKey : keyOf start spelled = Text.join "." names :=
    congrArg Prod.fst (Option.some.inj same)
  refine ⟨isOwn, isKey, ?_⟩
  obtain ⟨root, below, rfl⟩ := List.exists_cons_of_ne_nil nonempty
  have small : ∀ name ∈ root :: below, Tree.IsSmallName name := fun name member =>
    (steps name member).1
  have written : Tree.written (Text.join "." (root :: below)) = Tree.named (root :: below) := by
    rw [Tree.written, Tree.parse?_join small]
    rfl
  rw [isKey, Tree.place, written, Tree.named, List.map_map]
  refine List.map_congr_left fun name member => ?_
  rw [Function.comp_apply, Tree.Step.lowered, Tree.lowercase_of_isSmallName (small name member)]

theorem IsClear.meets {entry : String × String}
    (clear : IsFor start names entry.1 ∨ Spares start names entry.1)
    (isOwn : isRead start entry.1 = true) :
    Tree.Meets ((Tree.written (keyOf start entry.1)).map Tree.Step.lowered) names :=
  clear.imp (fun isFor => (isFor.leads nonempty).2.2) fun spares => spares.apart isOwn

theorem reach?_assign_of_isFor (listKeys : List String) {entry : String × String}
    (isFor : IsFor start names entry.1) (tree : Tree) :
    (assign start listKeys tree entry).reach? (Tree.named names) =
      some (meaning listKeys (Text.join "." names) entry.2) := by
  obtain ⟨isOwn, isKey, leads⟩ := isFor.leads nonempty
  rw [assign, if_pos isOwn, Tree.setWritten_eq, ← isKey]
  exact Tree.reach?_setBelow_self (meaning_ne_table listKeys _ _) leads nonempty tree

omit nonempty in
theorem reach?_assign_of_spares (listKeys : List String) {entry : String × String}
    (spares : Spares start names entry.1) (tree : Tree) :
    (assign start listKeys tree entry).reach? (Tree.named names) =
      tree.reach? (Tree.named names) := by
  unfold assign
  split
  · rename_i isOwn
    rw [Tree.setWritten_eq]
    exact Tree.reach?_setBelow_of_apart _ (spares.apart isOwn) tree
  · rfl

/-- Once all variables are set, a setting stands at its place as its last variable gives it, or else as
the tree beneath them does. -/
theorem reach?_apply (listKeys : List String) (clear : IsClear start names exported) (tree : Tree) :
    (apply start listKeys exported tree).reach? (Tree.named names) =
      given? start listKeys names exported tree := by
  induction exported generalizing tree with
  | nil => rfl
  | cons entry rest inductionHypothesis =>
      obtain ⟨here, later⟩ := List.forall_mem_cons.mp clear
      rw [apply_cons, inductionHypothesis later]
      unfold given?
      rw [lastText?]
      -- A later variable of the setting decides; otherwise this one does, or else the tree.
      cases lastText? start names rest with
      | some text => rfl
      | none =>
          by_cases isFor : IsFor start names entry.1
          · rw [if_pos isFor]
            exact reach?_assign_of_isFor nonempty listKeys isFor tree
          · rw [if_neg isFor]
            exact reach?_assign_of_spares listKeys (here.resolve_left isFor) tree

omit nonempty in
/-- Above a setting the variables change nothing, or leave a table. -/
theorem reach?_apply_above (listKeys : List String) {front behind : List String}
    (below : behind ≠ []) (clear : IsClear start (front ++ behind) exported) (tree : Tree) :
    (apply start listKeys exported tree).reach? (Tree.named front) =
        tree.reach? (Tree.named front) ∨
      ∃ entries, (apply start listKeys exported tree).reach? (Tree.named front) =
        some (.table entries) := by
  have nonempty : front ++ behind ≠ [] := fun none => below (List.append_eq_nil_iff.mp none).2
  induction exported generalizing tree with
  | nil => exact .inl rfl
  | cons entry rest inductionHypothesis =>
      obtain ⟨here, later⟩ := List.forall_mem_cons.mp clear
      have step : (assign start listKeys tree entry).reach? (Tree.named front) =
            tree.reach? (Tree.named front) ∨
          ∃ entries, (assign start listKeys tree entry).reach? (Tree.named front) =
            some (.table entries) := by
        unfold assign
        split
        · rename_i isOwn
          rw [Tree.setWritten_eq]
          exact Tree.reach?_setBelow_above _ below (IsClear.meets nonempty here isOwn) tree
        · exact .inl rfl
      rw [apply_cons]
      rcases inductionHypothesis later (assign start listKeys tree entry) with same | isTable
      · rw [same]
        exact step
      · exact .inr isTable

end Setting

theorem apply_isTable (start : String) (listKeys : List String) (exported : Variables)
    {entries : List (String × Tree)} (sorted : Tree.HasSortedTables (.table entries)) :
    ∃ changed, apply start listKeys exported (.table entries) = .table changed ∧
      Tree.HasSortedTables (.table changed) :=
  Tree.foldl_setWritten_isTable _ sorted

end Variables

/-! ### Settings -/

/-- A setting of a record: the names that lead to it, how its value is read, the value that it has
when nothing is given, and its place in the record. -/
structure Setting (S : Type) where
  names : List String
  Value : Type
  read : Tree → Option Value
  fallback : Value
  get : S → Value
  nonempty : names ≠ []

namespace Setting

variable {S P : Type}

/-- The setting of a field. -/
def field {α : Type} (name : String) (read : Tree → Option α) (fallback : α) (get : S → α) :
    Setting S :=
  ⟨[name], α, read, fallback, get, List.cons_ne_nil _ _⟩

/-- The setting of a part, as one of the settings that have the part under a name. -/
def within (name : String) (part : S → P) (setting : Setting P) : Setting S :=
  ⟨name :: setting.names, setting.Value, setting.read, setting.fallback,
    fun settings => setting.get (part settings), List.cons_ne_nil _ _⟩

@[simp] theorem names_field {α : Type} (name : String) (read : Tree → Option α) (fallback : α)
    (get : S → α) : (field name read fallback get).names = [name] :=
  rfl

@[simp] theorem names_within (name : String) (part : S → P) (setting : Setting P) :
    (setting.within name part).names = name :: setting.names :=
  rfl

/-- The value of what is given, or the value that stands for nothing. -/
def valueOr {α : Type} (read : Tree → Option α) (fallback : α) : Option Tree → Option α
  | some found => read found
  | none => some fallback

/-- The value of a setting in a tree. -/
def valueIn? (setting : Setting S) (tree : Tree) : Option setting.Value :=
  valueOr setting.read setting.fallback (tree.reach? (Tree.named setting.names))

/-- A setting has the value in a record that it has in a tree. -/
def Has (setting : Setting S) (tree : Tree) (settings : S) : Prop :=
  setting.valueIn? tree = some (setting.get settings)

/-- A setting has a value in a tree. -/
def IsReadable (setting : Setting S) (tree : Tree) : Prop :=
  ∃ value, setting.valueIn? tree = some value

/-- Names lead to the part that a setting is in, not positions of a list. -/
def IsByName (setting : Setting S) (tree : Tree) : Prop :=
  ∀ items, tree.reach? (Tree.named setting.names.dropLast) ≠ some (.list items)

section Fields

variable {α : Type} (name : String) (read : Tree → Option α) (fallback : α) (get : S → α)
  (entries : List (String × Tree))

theorem fieldOr_named (position : Nat) :
    (RecordFields.named entries).fieldOr position name fallback read =
      valueOr read fallback (Fields.get? name entries) := by
  unfold RecordFields.fieldOr RecordFields.get? valueOr
  dsimp only
  cases Fields.get? name entries <;> rfl

theorem reach?_name (tree : Tree) :
    tree.reach? (Tree.named [name]) = Fields.get? name tree.entries := by
  rw [Tree.named_cons, Tree.reach?_child]
  cases Fields.get? name tree.entries <;> rfl

theorem has_field {settings : S} :
    (field name read fallback get).Has (.table entries) settings ↔
      valueOr read fallback (Fields.get? name entries) = some (get settings) := by
  have leads : (Tree.table entries).reach? (Tree.named [name]) = Fields.get? name entries :=
    reach?_name name _
  rw [← leads]
  rfl

theorem isReadable_field :
    (field name read fallback get).IsReadable (.table entries) ↔
      ∃ value, valueOr read fallback (Fields.get? name entries) = some value := by
  have leads : (Tree.table entries).reach? (Tree.named [name]) = Fields.get? name entries :=
    reach?_name name _
  rw [← leads]
  rfl

end Fields

theorem valueIn?_within (name : String) (part : S → P) (setting : Setting P) {tree found : Tree}
    (reached : tree.reach? (Tree.named [name]) = some found) :
    (setting.within name part).valueIn? tree = setting.valueIn? found := by
  have below : tree.reach? (Tree.named (name :: setting.names)) =
      found.reach? (Tree.named setting.names) := by
    rw [reach?_name] at reached
    rw [Tree.named_cons, Tree.reach?_child, reached, Option.bind_some]
  exact congrArg (valueOr setting.read setting.fallback) below

theorem valueIn?_within_of_none (name : String) (part : S → P) (setting : Setting P) {tree : Tree}
    (absent : tree.reach? (Tree.named [name]) = none) :
    (setting.within name part).valueIn? tree = some setting.fallback := by
  have below : tree.reach? (Tree.named (name :: setting.names)) = none := by
    rw [reach?_name] at absent
    rw [Tree.named_cons, Tree.reach?_child, absent, Option.bind_none]
  exact congrArg (valueOr setting.read setting.fallback) below

/-! ### The layers of a setting -/

/-- The value of a setting by its layers: that of its last variable, or else that of the tree beneath
the variables, or else the one that stands for nothing. -/
def layered? (setting : Setting S) (start : String) (listKeys : List String)
    (exported : Variables) (beneath : Tree) : Option setting.Value :=
  valueOr setting.read setting.fallback
    (Variables.given? start listKeys setting.names exported beneath)

/-- Once all variables are set, a setting has the value by its layers. -/
theorem valueIn?_apply (setting : Setting S) {start : String} {exported : Variables}
    (clear : Variables.IsClear start setting.names exported) (listKeys : List String)
    (beneath : Tree) :
    setting.valueIn? (Variables.apply start listKeys exported beneath) =
      setting.layered? start listKeys exported beneath :=
  congrArg (valueOr setting.read setting.fallback)
    (Variables.reach?_apply setting.nonempty listKeys clear beneath)

end Setting

end RemoteConfig
