import RemoteConfig.Proofs.Environment.Leaves

/-!
Contract: a document is rebuilt from its leaves, in whatever order they are set.

Owns:
- setting values at steps one after the other, and what this makes of the value below one step;
- tables and lists grow exactly the entries and items that steps lead into;
- `rebuild_leaves`: setting the leaves of a document in any order gives the document.

Does not own: where the leaves are read from.
-/

namespace RemoteConfig.Tree

/-- The tree with values set at steps, one after the other. -/
def setLeaves (leaves : List (List Step × Json)) (tree : Tree) : Tree :=
  leaves.foldl (fun tree leaf => setBelow (ofJson leaf.2) leaf.1 tree) tree

theorem setLeaves_cons (leaf : List Step × Json) (rest : List (List Step × Json)) (tree : Tree) :
    setLeaves (leaf :: rest) tree = setLeaves rest (setBelow (ofJson leaf.2) leaf.1 tree) :=
  rfl

/-- Those of some leaves that are reached by a first step, seen from there. -/
def leavesBelow (step : Step) (leaves : List (List Step × Json)) : List (List Step × Json) :=
  leaves.filterMap fun leaf =>
    match leaf.1 with
    | [] => Option.none
    | first :: rest => if first = step then some (rest, leaf.2) else Option.none

/-- The entry of a table under a name; nothing is there by default. -/
def entry (name : String) (tree : Tree) : Tree :=
  (Fields.get? name tree.entries).getD .none

/-- The item of a list at a position; nothing is there by default. -/
def item (position : Nat) (tree : Tree) : Tree :=
  tree.items[position]?.getD .none

/-! ### Leaves below a step -/

theorem leavesBelow_append (step : Step) (first second : List (List Step × Json)) :
    leavesBelow step (first ++ second) = leavesBelow step first ++ leavesBelow step second :=
  List.filterMap_append

theorem leavesBelow_map_self (step : Step) (leaves : List (List Step × Json)) :
    leavesBelow step (leaves.map fun leaf => (step :: leaf.1, leaf.2)) = leaves := by
  induction leaves with
  | nil => rfl
  | cons leaf rest inductionHypothesis =>
      unfold leavesBelow at inductionHypothesis ⊢
      simpa using inductionHypothesis

theorem leavesBelow_eq_nil {step : Step} {leaves : List (List Step × Json)}
    (elsewhere : ∀ leaf ∈ leaves, ∀ rest, leaf.1 ≠ step :: rest) : leavesBelow step leaves = [] := by
  refine List.filterMap_eq_nil_iff.mpr fun leaf member => ?_
  have leads := elsewhere leaf member
  split
  · rfl
  · rename_i first rest steps
    refine if_neg fun same => ?_
    exact leads rest (by rw [steps, same])

/-- Below a name an object has the leaves of the field of that name. -/
theorem leavesBelow_fieldLeaves {fields : List (String × Json)} (sorted : Fields.IsSorted fields)
    {name : String} {value : Json} (member : (name, value) ∈ fields) :
    leavesBelow (.child name) (Json.fieldLeaves fields) = value.leaves := by
  induction fields with
  | nil => cases member
  | cons field rest inductionHypothesis =>
      obtain ⟨first, firstValue⟩ := field
      obtain ⟨above, restSorted⟩ := List.pairwise_cons.mp sorted
      rw [Json.fieldLeaves, leavesBelow_append]
      rcases List.mem_cons.mp member with isFirst | later
      · cases isFirst
        have noneLater : leavesBelow (.child name) (Json.fieldLeaves rest) = [] := by
          refine leavesBelow_eq_nil fun leaf isLeaf steps same => ?_
          obtain ⟨field, isField, inner, _, rfl⟩ := Json.mem_fieldLeaves.mp isLeaf
          have sameName : field.1 = name := Step.child.inj (List.cons.inj same).1
          exact String.lt_irrefl _ (sameName ▸ above field isField)
        rw [leavesBelow_map_self, noneLater, List.append_nil]
      · have noneFirst : leavesBelow (.child name)
            (firstValue.leaves.map fun leaf => (.child first :: leaf.1, leaf.2)) = [] := by
          refine leavesBelow_eq_nil fun leaf isLeaf steps same => ?_
          obtain ⟨inner, _, rfl⟩ := List.mem_map.mp isLeaf
          have sameName : first = name := Step.child.inj (List.cons.inj same).1
          exact String.lt_irrefl _ (sameName ▸ above _ later)
        rw [noneFirst, List.nil_append, inductionHypothesis restSorted later]

/-- Below a position a list has the leaves of the item there. -/
theorem leavesBelow_itemLeaves {items : List Json} {start position : Nat} {value : Json}
    (found : items[position]? = some value) :
    leavesBelow (.position (start + position : Nat)) (Json.itemLeaves start items) = value.leaves := by
  induction items generalizing start position with
  | nil => simp at found
  | cons first rest inductionHypothesis =>
      rw [Json.itemLeaves, leavesBelow_append]
      cases position with
      | zero =>
          rw [List.getElem?_cons_zero, Option.some.injEq] at found
          have noneLater : leavesBelow (.position (start : Nat)) (Json.itemLeaves (start + 1) rest) = [] := by
            refine leavesBelow_eq_nil fun leaf isLeaf steps same => ?_
            obtain ⟨index, _, _, inner, _, rfl⟩ := Json.mem_itemLeaves.mp isLeaf
            have samePosition := Step.position.inj (List.cons.inj same).1
            omega
          rw [Nat.add_zero, leavesBelow_map_self, noneLater, List.append_nil, found]
      | succ position =>
          have noneFirst : leavesBelow (.position (start + (position + 1) : Nat))
              (first.leaves.map fun leaf => (.position (start : Nat) :: leaf.1, leaf.2)) = [] := by
            refine leavesBelow_eq_nil fun leaf isLeaf steps same => ?_
            obtain ⟨inner, _, rfl⟩ := List.mem_map.mp isLeaf
            have samePosition := Step.position.inj (List.cons.inj same).1
            omega
          have foundBehind : rest[position]? = some value := by simpa using found
          have later := @inductionHypothesis (start + 1) position foundBehind
          rw [Nat.add_right_comm, Nat.add_assoc] at later
          rw [noneFirst, List.nil_append, later]

/-! ### Growing tables -/

/-- Leaves that lead into entries of a table, under names in lower case. -/
def AreNamed (leaves : List (List Step × Json)) : Prop :=
  ∀ leaf ∈ leaves, leaf.2.IsLeaf ∧
    ∃ name rest, leaf.1 = .child name :: rest ∧ Text.lowercase name = name

/-- Setting a leaf puts the changed entry into the table. -/
theorem setBelow_child_of_isLeaf {value : Json} (isLeaf : value.IsLeaf) {name : String}
    (lower : Text.lowercase name = name) (rest : List Step) (tree : Tree) :
    setBelow (ofJson value) (.child name :: rest) tree =
      .table (Fields.insert name (setBelow (ofJson value) rest (entry name tree))
        tree.entries) := by
  cases rest with
  | nil =>
      have inserted : mergeEntry name tree.entries (ofJson value) =
          Fields.insert name (ofJson value) tree.entries := by
        cases value with
        | object fields => exact isLeaf.elim
        | number number => cases number <;> simp [ofJson, mergeEntry, lower]
        | _ => simp [ofJson, mergeEntry, lower]
      simp only [setBelow, inserted]
  | cons next rest => rw [setBelow_child_of_downward (by simp), lower, entry]

section Tables

variable {leaves : List (List Step × Json)}

/-- An entry is what the leaves below its name make of it; without such leaves it stays. -/
theorem get?_setLeaves (named : AreNamed leaves) (name : String) (tree : Tree) :
    Fields.get? name (setLeaves leaves tree).entries =
      if leavesBelow (.child name) leaves = [] then Fields.get? name tree.entries
      else some (setLeaves (leavesBelow (.child name) leaves) (entry name tree)) := by
  induction leaves generalizing tree with
  | nil => rfl
  | cons leaf rest inductionHypothesis =>
      obtain ⟨⟨isLeaf, first, steps, isNamed, lower⟩, restNamed⟩ := List.forall_mem_cons.mp named
      obtain ⟨path, value⟩ := leaf
      simp only at isLeaf isNamed
      subst isNamed
      have changed := setBelow_child_of_isLeaf isLeaf lower steps tree
      have later := inductionHypothesis restNamed (setBelow (ofJson value) (.child first :: steps) tree)
      by_cases same : first = name
      · subst same
        have isFirst : leavesBelow (.child first) ((.child first :: steps, value) :: rest) =
            (steps, value) :: leavesBelow (.child first) rest := by
          simp [leavesBelow]
        have present : Fields.get? first
            (setBelow (ofJson value) (.child first :: steps) tree).entries =
              some (setBelow (ofJson value) steps (entry first tree)) := by
          rw [changed, entries, Fields.get?_insert_self]
        rw [isFirst, if_neg (by simp), setLeaves_cons, setLeaves_cons, later, entry, present]
        split
        · rename_i noneLater
          rw [noneLater]
          rfl
        · rfl
      · have notFirst : leavesBelow (.child name) ((.child first :: steps, value) :: rest) =
            leavesBelow (.child name) rest := by
          simp [leavesBelow, same]
        have unchanged : Fields.get? name
            (setBelow (ofJson value) (.child first :: steps) tree).entries =
              Fields.get? name tree.entries := by
          rw [changed, entries, Fields.get?_insert_of_ne (Ne.symm same)]
        rw [notFirst, setLeaves_cons, later, entry, unchanged]
        rfl

theorem isSorted_setLeaves (named : AreNamed leaves) {tree : Tree}
    (sorted : Fields.IsSorted tree.entries) :
    Fields.IsSorted (setLeaves leaves tree).entries := by
  induction leaves generalizing tree with
  | nil => exact sorted
  | cons leaf rest inductionHypothesis =>
      obtain ⟨⟨isLeaf, first, steps, isNamed, lower⟩, restNamed⟩ := List.forall_mem_cons.mp named
      rw [setLeaves_cons, isNamed, setBelow_child_of_isLeaf isLeaf lower]
      refine inductionHypothesis restNamed ?_
      exact Fields.isSorted_insert _ _ sorted

/-- Setting leaves gives a table. -/
theorem setLeaves_eq_table (named : AreNamed leaves) (nonempty : leaves ≠ []) (tree : Tree) :
    setLeaves leaves tree = .table (setLeaves leaves tree).entries := by
  have keeps (leaves : List (List Step × Json)) (named : AreNamed leaves) (found : Tree)
      (isTable : found = .table found.entries) :
      setLeaves leaves found = .table (setLeaves leaves found).entries := by
    induction leaves generalizing found with
    | nil => exact isTable
    | cons leaf rest inductionHypothesis =>
        obtain ⟨⟨isLeaf, first, steps, isNamed, lower⟩, restNamed⟩ :=
          List.forall_mem_cons.mp named
        rw [setLeaves_cons, isNamed, setBelow_child_of_isLeaf isLeaf lower]
        exact inductionHypothesis restNamed _ rfl
  cases leaves with
  | nil => exact absurd rfl nonempty
  | cons leaf rest =>
      obtain ⟨⟨isLeaf, first, steps, isNamed, lower⟩, restNamed⟩ := List.forall_mem_cons.mp named
      rw [setLeaves_cons, isNamed, setBelow_child_of_isLeaf isLeaf lower]
      exact keeps rest restNamed _ rfl

end Tables

/-! ### Growing lists -/

/-- Leaves that lead into items of a list. -/
def ArePlaced (leaves : List (List Step × Json)) : Prop :=
  ∀ leaf ∈ leaves, ∃ (position : Nat) (rest : List Step), leaf.1 = .position position :: rest

theorem setBelow_position_eq (value : Tree) (position : Nat) (rest : List Step) (tree : Tree) :
    setBelow value (.position position :: rest) tree =
      .list (modifyItem position (setBelow value rest) tree.items) := by
  cases rest <;> rfl

theorem length_modifyItem (position : Nat) (change : Tree → Tree) (items : List Tree) :
    (modifyItem position change items).length = max items.length (position + 1) := by
  have fromStart : (0 : Int) ≤ (position : Nat) := Int.natCast_nonneg position
  simp only [modifyItem, absolutePosition, fromStart, if_true, Int.toNat_natCast,
    List.length_modify, List.length_append, List.length_replicate]
  omega

theorem item_modifyItem (position other : Nat) (change : Tree → Tree) (items : List Tree) :
    (modifyItem position change items)[other]?.getD .none =
      if other = position then change (items[position]?.getD .none)
      else items[other]?.getD .none := by
  have fromStart : (0 : Int) ≤ (position : Nat) := Int.natCast_nonneg position
  by_cases same : other = position
  · subst same
    have changed := @getElem?_modifyItem_self other change items fromStart
    rw [Int.toNat_natCast] at changed
    rw [changed, if_pos rfl]
    rfl
  · rw [if_neg same]
    have different : other ≠ (position : Int).toNat := by simpa using same
    rcases getElem?_modifyItem_of_ne change items fromStart different with
      unchanged | ⟨absent, filled⟩
    · rw [unchanged]
    · rw [absent, filled]
      rfl

section Lists

variable {leaves : List (List Step × Json)}

/-- An item is what the leaves below its position make of it. -/
theorem item_setLeaves (placed : ArePlaced leaves) (position : Nat) (tree : Tree) :
    item position (setLeaves leaves tree) =
      setLeaves (leavesBelow (.position position) leaves) (item position tree) := by
  induction leaves generalizing tree with
  | nil => rfl
  | cons leaf rest inductionHypothesis =>
      obtain ⟨⟨first, steps, isPlaced⟩, restPlaced⟩ := List.forall_mem_cons.mp placed
      obtain ⟨path, value⟩ := leaf
      simp only at isPlaced
      subst isPlaced
      have later := inductionHypothesis restPlaced
        (setBelow (ofJson value) (.position first :: steps) tree)
      have changed : item position (setBelow (ofJson value) (.position first :: steps) tree) =
          if position = first then setBelow (ofJson value) steps (item first tree)
          else item position tree := by
        rw [setBelow_position_eq]
        exact item_modifyItem first position _ _
      rw [changed] at later
      by_cases same : position = first
      · subst same
        have isFirst : leavesBelow (.position position) ((.position position :: steps, value) :: rest) =
            (steps, value) :: leavesBelow (.position position) rest := by
          simp [leavesBelow]
        rw [if_pos rfl] at later
        rw [isFirst]
        exact later
      · have different : (first : Int) ≠ (position : Int) := by omega
        have notFirst : leavesBelow (.position position) ((.position first :: steps, value) :: rest) =
            leavesBelow (.position position) rest := by
          simp [leavesBelow, different]
        rw [if_neg same] at later
        rw [notFirst]
        exact later

/-- A list grows to the positions that leaves lead into, and no further. -/
theorem lt_length_setLeaves_iff (placed : ArePlaced leaves) (count : Nat) (tree : Tree) :
    count < (setLeaves leaves tree).items.length ↔
      count < tree.items.length ∨
        ∃ leaf ∈ leaves, ∃ (position : Nat) (rest : List Step),
          leaf.1 = .position position :: rest ∧ count ≤ position := by
  induction leaves generalizing tree with
  | nil => simp [setLeaves]
  | cons leaf rest inductionHypothesis =>
      obtain ⟨⟨first, steps, isPlaced⟩, restPlaced⟩ := List.forall_mem_cons.mp placed
      have later := inductionHypothesis restPlaced (setBelow (ofJson leaf.2) leaf.1 tree)
      have grown : count < (setBelow (ofJson leaf.2) leaf.1 tree).items.length ↔
          count < tree.items.length ∨ count ≤ first := by
        rw [isPlaced, setBelow_position_eq, items, length_modifyItem]
        omega
      have isFirst : (∃ (position : Nat) (rest : List Step),
            leaf.1 = .position position :: rest ∧ count ≤ position) ↔ count ≤ first := by
        rw [isPlaced]
        constructor
        · rintro ⟨position, _, same, reaches⟩
          have samePosition := Step.position.inj (List.cons.inj same).1
          omega
        · exact fun reaches => ⟨first, steps, rfl, reaches⟩
      rw [setLeaves_cons, later, grown]
      simp only [List.mem_cons, exists_eq_or_imp, isFirst, or_assoc]

/-- Setting leaves gives a list. -/
theorem setLeaves_eq_list (placed : ArePlaced leaves) (nonempty : leaves ≠ []) (tree : Tree) :
    setLeaves leaves tree = .list (setLeaves leaves tree).items := by
  have keeps (leaves : List (List Step × Json)) (placed : ArePlaced leaves) (found : Tree)
      (isList : found = .list found.items) :
      setLeaves leaves found = .list (setLeaves leaves found).items := by
    induction leaves generalizing found with
    | nil => exact isList
    | cons leaf rest inductionHypothesis =>
        obtain ⟨⟨first, steps, isPlaced⟩, restPlaced⟩ := List.forall_mem_cons.mp placed
        rw [setLeaves_cons, isPlaced, setBelow_position_eq]
        exact inductionHypothesis restPlaced _ rfl
  cases leaves with
  | nil => exact absurd rfl nonempty
  | cons leaf rest =>
      obtain ⟨⟨first, steps, isPlaced⟩, restPlaced⟩ := List.forall_mem_cons.mp placed
      rw [setLeaves_cons, isPlaced, setBelow_position_eq]
      exact keeps rest restPlaced _ rfl

end Lists

/-! ### Rebuilding documents -/

section Rebuilding

/-- Leaves whose setting, in any order, gives a value. -/
def Rebuild (leaves : List (List Step × Json)) (value : Json) : Prop :=
  leaves ≠ [] ∧ ∀ order, order.Perm leaves → setLeaves order .none = ofJson value

/-- A value that is its own only leaf. -/
theorem rebuild_single {value : Json} (single : value.leaves = [([], value)]) :
    Rebuild value.leaves value := by
  rw [single]
  refine ⟨by simp, fun order perm => ?_⟩
  rw [List.perm_singleton.mp perm]
  rfl

theorem ofItems_eq_map (items : List Json) : ofItems items = items.map ofJson := by
  induction items with
  | nil => rfl
  | cons item rest inductionHypothesis => rw [ofItems, inductionHypothesis, List.map_cons]

variable {order : List (List Step × Json)}

theorem areNamed_of_perm {fields : List (String × Json)}
    (small : ∀ field ∈ fields, IsSmallName field.1) (perm : order.Perm (Json.fieldLeaves fields)) :
    AreNamed order := by
  intro leaf member
  have isLeaf : leaf ∈ Json.fieldLeaves fields := perm.mem_iff.mp member
  obtain ⟨field, isField, inner, _, rfl⟩ := Json.mem_fieldLeaves.mp isLeaf
  exact ⟨Json.isLeaf_of_mem_fieldLeaves fields _ isLeaf, field.1, inner.1, rfl,
    lowercase_of_isSmallName (small field isField)⟩

/-- The leaves of an object set in an empty table, or where nothing is, give the object. -/
theorem setLeaves_fieldLeaves {fields : List (String × Json)} (nonempty : fields ≠ [])
    (sorted : Fields.IsSorted fields) (small : ∀ field ∈ fields, IsSmallName field.1)
    (values : ∀ field ∈ fields, Rebuild field.2.leaves field.2)
    (perm : order.Perm (Json.fieldLeaves fields)) {tree : Tree} (isEmpty : tree.entries = []) :
    setLeaves order tree = ofJson (.object fields) := by
  have named := areNamed_of_perm small perm
  have someLeaf : order ≠ [] := by
    intro isNil
    obtain ⟨field, isField⟩ := List.exists_mem_of_ne_nil _ nonempty
    obtain ⟨leaf, isLeaf⟩ := List.exists_mem_of_ne_nil _ (values field isField).1
    have member := perm.mem_iff.mpr (Json.mem_fieldLeaves.mpr ⟨field, isField, leaf, isLeaf, rfl⟩)
    simp [isNil] at member
  rw [setLeaves_eq_table named someLeaf, ofJson]
  refine congrArg table (Fields.eq_of_get? ?_ ?_ fun key => ?_)
  · exact isSorted_setLeaves named (by rw [isEmpty]; exact List.Pairwise.nil)
  · rw [ofFields_eq_map]
    exact List.pairwise_map.mpr sorted
  · have nothing : entry key tree = .none := by rw [entry, isEmpty]; rfl
    rw [get?_setLeaves named, ofFields_eq_map, Fields.get?_map, isEmpty, nothing]
    have inside : (leavesBelow (.child key) order).Perm
        (leavesBelow (.child key) (Json.fieldLeaves fields)) := perm.filterMap _
    cases found : Fields.get? key fields with
    | some value =>
        have member := Fields.mem_of_get? found
        rw [leavesBelow_fieldLeaves sorted member] at inside
        obtain ⟨someBelow, rebuild⟩ := values _ member
        have stillSome : leavesBelow (.child key) order ≠ [] := by
          intro isNil
          rw [isNil] at inside
          exact someBelow (List.nil_perm.mp inside)
        rw [if_neg stillSome, rebuild _ inside]
        rfl
    | none =>
        have noneBelow : leavesBelow (.child key) order = [] := by
          refine leavesBelow_eq_nil fun leaf member rest same => ?_
          obtain ⟨field, isField, inner, _, rfl⟩ :=
            Json.mem_fieldLeaves.mp (perm.mem_iff.mp member)
          have sameName : field.1 = key := Step.child.inj (List.cons.inj same).1
          have isPresent : (key, field.2) ∈ fields := by
            rw [← sameName]
            exact isField
          have present := Fields.get?_of_mem sorted isPresent
          rw [found] at present
          cases present
        rw [if_pos noneBelow]
        rfl

section Items

variable {items : List Json} (perm : order.Perm (Json.itemLeaves 0 items))

include perm

theorem mem_iff_of_perm_itemLeaves (leaf : List Step × Json) :
    leaf ∈ order ↔ ∃ (position : Nat) (item : Json), items[position]? = some item ∧
      ∃ inner ∈ item.leaves, (.position position :: inner.1, inner.2) = leaf := by
  rw [perm.mem_iff, Json.mem_itemLeaves]
  simp only [Nat.zero_add]

theorem arePlaced_of_perm : ArePlaced order := by
  intro leaf member
  obtain ⟨position, _, _, inner, _, rfl⟩ := (mem_iff_of_perm_itemLeaves perm leaf).mp member
  exact ⟨position, inner.1, rfl⟩

theorem exists_leaf_at (values : ∀ item ∈ items, Rebuild item.leaves item) {position : Nat}
    {item : Json} (found : items[position]? = some item) :
    ∃ inner : List Step × Json, (.position position :: inner.1, inner.2) ∈ order := by
  obtain ⟨inner, isLeaf⟩ :=
    List.exists_mem_of_ne_nil _ (values item (List.mem_of_getElem? found)).1
  exact ⟨inner, (mem_iff_of_perm_itemLeaves perm _).mpr ⟨position, item, found, inner, isLeaf, rfl⟩⟩

/-- An item has a leaf, so a list that is set reaches as far as the items do. -/
theorem length_setLeaves_itemLeaves (values : ∀ item ∈ items, Rebuild item.leaves item) :
    (setLeaves order .none).items.length = items.length := by
  have sameCounts (count : Nat) :
      count < (setLeaves order .none).items.length ↔ count < items.length := by
    rw [lt_length_setLeaves_iff (arePlaced_of_perm perm)]
    constructor
    · rintro (noItems | ⟨leaf, member, position, rest, leads, reaches⟩)
      · simp [Tree.items] at noItems
      · obtain ⟨other, item, found, inner, _, rfl⟩ :=
          (mem_iff_of_perm_itemLeaves perm leaf).mp member
        have samePosition := Step.position.inj (List.cons.inj leads).1
        have inside := (List.getElem?_eq_some_iff.mp found).1
        omega
    · intro inside
      obtain ⟨inner, member⟩ := exists_leaf_at perm values (List.getElem?_eq_getElem inside)
      exact .inr ⟨_, member, count, inner.1, rfl, Nat.le_refl _⟩
  have notLess := sameCounts items.length
  have notMore := sameCounts (setLeaves order .none).items.length
  omega

/-- The leaves of a list with items, set where nothing is, give the list. -/
theorem setLeaves_itemLeaves (nonempty : items ≠ [])
    (values : ∀ item ∈ items, Rebuild item.leaves item) :
    setLeaves order .none = ofJson (.array items) := by
  have placed := arePlaced_of_perm perm
  have sameLength := length_setLeaves_itemLeaves perm values
  have someLeaf : order ≠ [] := by
    intro isNil
    obtain ⟨item, isItem⟩ := List.exists_mem_of_ne_nil _ nonempty
    obtain ⟨position, found⟩ := List.mem_iff_getElem?.mp isItem
    obtain ⟨inner, member⟩ := exists_leaf_at perm values found
    simp [isNil] at member
  rw [setLeaves_eq_list placed someLeaf, ofJson]
  refine congrArg list (List.ext_getElem? fun position => ?_)
  by_cases inside : position < items.length
  · have found := List.getElem?_eq_getElem inside
    have perItem : (leavesBelow (.position position) order).Perm items[position].leaves := by
      have filtered : (leavesBelow (.position position) order).Perm
          (leavesBelow (.position position) (Json.itemLeaves 0 items)) := perm.filterMap _
      have there := @leavesBelow_itemLeaves items 0 position _ found
      rw [Nat.zero_add] at there
      rwa [there] at filtered
    have rebuilt := item_setLeaves placed position .none
    rw [show item position .none = .none from rfl,
      (values _ (List.getElem_mem inside)).2 _ perItem, item,
      List.getElem?_eq_getElem (sameLength ▸ inside), Option.getD_some] at rebuilt
    rw [List.getElem?_eq_getElem (sameLength ▸ inside), rebuilt, ofItems_eq_map,
      List.getElem?_map, found]
    rfl
  · have beyond : items.length ≤ position := Nat.le_of_not_lt inside
    rw [List.getElem?_eq_none (by rw [sameLength]; exact beyond), ofItems_eq_map,
      List.getElem?_eq_none (by rw [List.length_map]; exact beyond)]

end Items

mutual

/-- Setting the leaves of a document, in any order, gives the document. -/
theorem rebuild_leaves : ∀ (document : Json), document.canonical = document →
    document.IsRestorable → Rebuild document.leaves document
  | .object fields, isCanonical, restorable => by
      have facts := Json.areRestorable_iff.mp restorable.2
      refine ⟨Json.leaves_ne_nil _ restorable, fun order perm => ?_⟩
      exact setLeaves_fieldLeaves restorable.1 (Json.isSorted_of_canonical isCanonical)
        (fun field member => (facts field member).1)
        (rebuild_fields fields (fun _ => Json.canonical_of_mem_fields isCanonical) restorable.2)
        perm rfl
  | .array [], _, _ => rebuild_single rfl
  | .array (item :: rest), isCanonical, restorable => by
      refine ⟨Json.leaves_ne_nil _ restorable, fun order perm => ?_⟩
      exact setLeaves_itemLeaves perm (by simp)
        (rebuild_items (item :: rest) (fun _ => Json.canonical_of_mem_items isCanonical)
          restorable.2)
  | .null, _, _ | .bool _, _, _ | .number _, _, _ | .string _, _, _ => rebuild_single rfl

theorem rebuild_fields : ∀ (fields : List (String × Json)),
    (∀ field ∈ fields, field.2.canonical = field.2) → Json.AreRestorable fields →
    ∀ field ∈ fields, Rebuild field.2.leaves field.2
  | [], _, _ => by simp
  | (_, value) :: rest, canonical, restorable => by
      obtain ⟨valueCanonical, restCanonical⟩ := List.forall_mem_cons.mp canonical
      obtain ⟨_, valueRestorable, restRestorable⟩ := restorable
      exact List.forall_mem_cons.mpr
        ⟨rebuild_leaves value valueCanonical valueRestorable,
          rebuild_fields rest restCanonical restRestorable⟩

theorem rebuild_items : ∀ (items : List Json), (∀ item ∈ items, item.canonical = item) →
    Json.itemsAreRestorable items → ∀ item ∈ items, Rebuild item.leaves item
  | [], _, _ => by simp
  | item :: rest, canonical, restorable => by
      obtain ⟨itemCanonical, restCanonical⟩ := List.forall_mem_cons.mp canonical
      obtain ⟨itemRestorable, restRestorable⟩ := restorable
      exact List.forall_mem_cons.mpr
        ⟨rebuild_leaves item itemCanonical itemRestorable,
          rebuild_items rest restCanonical restRestorable⟩

end

end Rebuilding

end RemoteConfig.Tree
