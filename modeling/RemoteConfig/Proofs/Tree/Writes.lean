import RemoteConfig.Proofs.Tree.Navigation

/-!
Contract: what setting values at paths changes in a tree.

Owns:
- the paths that part at a node where both go by name or both by position;
- a value that was set is reached, and setting another one at a path that parts leaves it there;
- many values at paths that part in pairs are all reached, in whatever order they are set.

Does not own: which values are set.
-/

namespace RemoteConfig

mutual

/-- Are the names of an object, and of the objects under these names, in lower case? -/
def Json.HasLowerNames : Json → Prop
  | .object fields => Json.fieldsHaveLowerNames fields
  | _ => True

/-- Are names, and those of the objects under them, in lower case? -/
def Json.fieldsHaveLowerNames : List (String × Json) → Prop
  | [] => True
  | (name, value) :: rest =>
    Text.lowercase name = name ∧ value.HasLowerNames ∧ Json.fieldsHaveLowerNames rest

end

namespace Tree

/-- A step that setting a value takes as it stands. -/
def Step.IsPlain : Step → Prop
  | .child name => Text.lowercase name = name
  | .position index => 0 ≤ index

/-- Paths that part at a node where both go by name or both by position. -/
def Part : List Step → List Step → Prop
  | .child first :: firstRest, .child second :: secondRest =>
    first ≠ second ∨ Part firstRest secondRest
  | .position first :: firstRest, .position second :: secondRest =>
    first ≠ second ∨ Part firstRest secondRest
  | _, _ => False

/-- The steps of a path from the root of the tree. -/
def Path.descent (path : Path) : List Step :=
  .child path.root :: path.steps

/-- A place that is reached by name does not hold a value yet. -/
def Vacant (tree : Tree) (steps : List Step) : Prop :=
  ∀ name, steps.getLast? = some (.child name) → tree.reach? steps = Option.none

/-! ### Paths that part -/

theorem Part.symm {first second : List Step} (part : Part first second) : Part second first := by
  induction first generalizing second with
  | nil => exact part.elim
  | cons step rest inductionHypothesis =>
      cases second with
      | nil => cases step <;> exact part.elim
      | cons other otherRest =>
          cases step <;> cases other <;>
            first
            | exact part.elim
            | exact part.imp Ne.symm inductionHypothesis

/-- Paths part when neither begins with the other and no node is used in both ways. -/
theorem part_of_apart {first second : List Step} (notBefore : ¬ first <+: second)
    (notBehind : ¬ second <+: first)
    (oneKind : ∀ node name index, node ++ [.child name] <+: first →
      ¬ node ++ [.position index] <+: second)
    (otherKind : ∀ node name index, node ++ [.child name] <+: second →
      ¬ node ++ [.position index] <+: first) : Part first second := by
  induction first generalizing second with
  | nil => exact absurd (List.nil_prefix) notBefore
  | cons step rest inductionHypothesis =>
      cases second with
      | nil => exact absurd (List.nil_prefix) notBehind
      | cons other otherRest =>
          have later (same : step = other) : Part rest otherRest := by
            subst same
            refine inductionHypothesis ?_ ?_ ?_ ?_
            · exact fun before => notBefore (List.cons_prefix_cons.mpr ⟨rfl, before⟩)
            · exact fun behind => notBehind (List.cons_prefix_cons.mpr ⟨rfl, behind⟩)
            · intro node name index named placed
              exact oneKind (step :: node) name index (List.cons_prefix_cons.mpr ⟨rfl, named⟩)
                (List.cons_prefix_cons.mpr ⟨rfl, placed⟩)
            · intro node name index named placed
              exact otherKind (step :: node) name index (List.cons_prefix_cons.mpr ⟨rfl, named⟩)
                (List.cons_prefix_cons.mpr ⟨rfl, placed⟩)
          cases step with
          | child name =>
              cases other with
              | child otherName =>
                  by_cases same : name = otherName
                  · exact .inr (later (by rw [same]))
                  · exact .inl same
              | position index =>
                  exact absurd (by simp : [] ++ [Step.position index] <+: _ :: otherRest)
                    (oneKind [] name index (by simp))
          | position index =>
              cases other with
              | child otherName =>
                  exact absurd (by simp : [] ++ [Step.position index] <+: _ :: rest)
                    (otherKind [] otherName index (by simp))
              | position otherIndex =>
                  by_cases same : index = otherIndex
                  · exact .inr (later (by rw [same]))
                  · exact .inl same

/-! ### Merging one value into a table -/

theorem get?_mergeEntry_of_ne {name other : String} (different : other ≠ Text.lowercase name)
    (entries : List (String × Tree)) (value : Tree) :
    Fields.get? other (mergeEntry name entries value) = Fields.get? other entries := by
  unfold mergeEntry
  split
  · simp only
    split <;> exact Fields.get?_insert_of_ne different ..
  · exact Fields.get?_insert_of_ne different ..

mutual

/-- A document is put under a free name as it stands. -/
theorem mergeEntry_ofJson : ∀ (value : Json), value.canonical = value → value.HasLowerNames →
    ∀ (name : String) (entries : List (String × Tree)), Text.lowercase name = name →
      Fields.get? name entries = Option.none →
      mergeEntry name entries (ofJson value) = Fields.insert name (ofJson value) entries
  | .null, _, _, _, _, lower, _ => by simp [ofJson, mergeEntry, lower]
  | .bool _, _, _, _, _, lower, _ => by simp [ofJson, mergeEntry, lower]
  | .number (.integer _ _), _, _, _, _, lower, _ => by simp [ofJson, mergeEntry, lower]
  | .number (.double _ _), _, _, _, _, lower, _ => by simp [ofJson, mergeEntry, lower]
  | .string _, _, _, _, _, lower, _ => by simp [ofJson, mergeEntry, lower]
  | .array _, _, _, _, _, lower, _ => by simp [ofJson, mergeEntry, lower]
  | .object fields, isCanonical, lowerNames, name, entries, lower, free => by
      have inside : mergeEntries [] (ofFields fields) = ofFields fields :=
        mergeEntries_ofFields fields (fun _ => Json.canonical_of_mem_fields isCanonical) lowerNames []
          (by
            rw [List.nil_append, ofFields_eq_map]
            exact List.pairwise_map.mpr (Json.isSorted_of_canonical isCanonical))
      simp [ofJson, mergeEntry, lower, free, inside]

/-- Sorted fields are put behind the entries of a table as they stand. -/
theorem mergeEntries_ofFields : ∀ (fields : List (String × Json)),
    (∀ field ∈ fields, field.2.canonical = field.2) → Json.fieldsHaveLowerNames fields →
    ∀ entries : List (String × Tree), Fields.IsSorted (entries ++ ofFields fields) →
      mergeEntries entries (ofFields fields) = entries ++ ofFields fields
  | [], _, _, _, _ => by simp [ofFields, mergeEntries]
  | (name, value) :: rest, canonical, lowerNames, entries, sorted => by
      obtain ⟨lower, valueLower, restLower⟩ := lowerNames
      have above : ∀ entry ∈ entries, entry.1 < name := fun entry member =>
        (List.pairwise_append.mp sorted).2.2 entry member (name, ofJson value)
          (by simp [ofFields])
      have free : Fields.get? name entries = Option.none :=
        Fields.get?_eq_none fun entry member same =>
          String.lt_irrefl name (same ▸ above entry member)
      rw [ofFields, mergeEntries,
        mergeEntry_ofJson value (canonical _ List.mem_cons_self) valueLower name entries lower free,
        Fields.insert_of_above above,
        mergeEntries_ofFields rest (fun field member => canonical field (List.mem_cons_of_mem _ member))
          restLower _ (by simpa [ofFields] using sorted)]
      simp

end

/-! ### Changing one item of a list -/

section Items

variable {index : Int} {change : Tree → Tree} {items : List Tree}

theorem getElem?_modifyItem_self (fromStart : 0 ≤ index) :
    (modifyItem index change items)[index.toNat]? =
      some (change (items[index.toNat]?.getD .none)) := by
  unfold modifyItem
  simp only [absolutePosition, fromStart, if_true, List.getElem?_modify]
  by_cases present : index.toNat < items.length
  · simp [present, List.getElem?_append_left present]
  · have inHole : index.toNat - items.length < index.toNat + 1 - items.length := by omega
    rw [List.getElem?_append_right (by omega), List.getElem?_replicate, if_pos inHole,
      List.getElem?_eq_none (by omega)]
    rfl

variable (change items) in
/-- The other items stay, and holes are filled with nothing. -/
theorem getElem?_modifyItem_of_ne (fromStart : 0 ≤ index) {other : Nat}
    (different : other ≠ index.toNat) :
    (modifyItem index change items)[other]? = items[other]? ∨
      (items[other]? = Option.none ∧ (modifyItem index change items)[other]? = some .none) := by
  unfold modifyItem
  simp only [absolutePosition, fromStart, if_true, List.getElem?_modify, Ne.symm different, if_false,
    Option.map_eq_map, Option.map_id_fun']
  by_cases present : other < items.length
  · left
    simp [List.getElem?_append_left present, present]
  · have absent : items[other]? = Option.none := List.getElem?_eq_none (by omega)
    rw [List.getElem?_append_right (by omega), List.getElem?_replicate]
    split
    · exact .inr ⟨absent, rfl⟩
    · exact .inl (by rw [absent]; rfl)

end Items

/-! ### Reaching what was set -/

/-- Below a name or a position an absent value counts as nothing. -/
theorem bind_reach? {steps : List Step} (downward : steps ≠ []) (present : Option Tree) :
    present.bind (reach? steps) = reach? steps (present.getD .none) := by
  cases present with
  | none => exact (reach?_none downward).symm
  | some value => rfl

theorem Vacant.below {step next : Step} {rest : List Step} {tree : Tree} {present : Option Tree}
    (vacant : Vacant tree (step :: next :: rest))
    (leads : tree.reach? (step :: next :: rest) = present.bind (reach? (next :: rest))) :
    Vacant (present.getD .none) (next :: rest) := by
  intro name last
  rw [← bind_reach? (by simp), ← leads]
  exact vacant name (by rw [List.getLast?_cons_cons]; exact last)

/-- A value that is set at a vacant place is reached there. -/
theorem reach?_setBelow {value : Json} (isCanonical : value.canonical = value)
    (lower : value.HasLowerNames) {steps : List Step} (downward : steps ≠ [])
    (plain : ∀ step ∈ steps, step.IsPlain) {tree : Tree} (vacant : Vacant tree steps) :
    (setBelow (ofJson value) steps tree).reach? steps = some (ofJson value) := by
  induction steps generalizing tree with
  | nil => exact absurd rfl downward
  | cons step rest inductionHypothesis =>
      have plainStep := plain step List.mem_cons_self
      have plainRest : ∀ step ∈ rest, step.IsPlain := fun step member =>
        plain step (List.mem_cons_of_mem _ member)
      cases rest with
      | nil =>
          cases step with
          | child name =>
              have absent := vacant name rfl
              rw [reach?_child] at absent
              have free : Fields.get? name tree.entries = Option.none := by
                cases found : Fields.get? name tree.entries with
                | none => rfl
                | some present => simp [found, reach?] at absent
              rw [setBelow, reach?_child, entries,
                mergeEntry_ofJson value isCanonical lower name tree.entries plainStep free,
                Fields.get?_insert_self]
              rfl
          | position index =>
              rw [setBelow, reach?_position plainStep, items, getElem?_modifyItem_self plainStep]
              rfl
      | cons next rest =>
          cases step with
          | child name =>
              have reached := inductionHypothesis (by simp) plainRest
                (vacant.below (reach?_child name (next :: rest) tree))
              rw [setBelow, reach?_child, entries, plainStep, Fields.get?_insert_self]
              exact reached
          | position index =>
              have reached := inductionHypothesis (by simp) plainRest
                (vacant.below (reach?_position plainStep (next :: rest) tree))
              rw [setBelow, reach?_position plainStep, items, getElem?_modifyItem_self plainStep]
              exact reached

/-! ### Leaving other places alone -/

theorem Part.downward {first second : List Step} (part : Part first second) :
    first ≠ [] ∧ second ≠ [] := by
  constructor
  · rintro rfl
    exact part.elim
  · rintro rfl
    exact part.symm.elim

/-- Setting below a name gives a table in which other names have what they had. -/
theorem setBelow_child (name : String) (value : Tree) (rest : List Step) (tree : Tree) :
    ∃ changed, setBelow value (.child name :: rest) tree = .table changed ∧
      ∀ other, other ≠ Text.lowercase name →
        Fields.get? other changed = Fields.get? other tree.entries := by
  cases rest with
  | nil => exact ⟨_, rfl, fun other different => get?_mergeEntry_of_ne different ..⟩
  | cons next rest => exact ⟨_, rfl, fun other different => Fields.get?_insert_of_ne different ..⟩

/-- Setting below a position changes the item there. -/
theorem setBelow_position (index : Int) (value : Tree) (rest : List Step) (tree : Tree) :
    ∃ change, setBelow value (.position index :: rest) tree =
      .list (modifyItem index change tree.items) := by
  cases rest with
  | nil => exact ⟨_, rfl⟩
  | cons next rest => exact ⟨_, rfl⟩

theorem setBelow_child_of_downward {name : String} {rest : List Step} (downward : rest ≠ [])
    (value tree : Tree) :
    setBelow value (.child name :: rest) tree =
      .table (Fields.insert (Text.lowercase name)
        (setBelow value rest ((Fields.get? (Text.lowercase name) tree.entries).getD .none))
        tree.entries) := by
  cases rest with
  | nil => exact absurd rfl downward
  | cons next rest => rfl

theorem setBelow_position_of_downward (index : Int) {rest : List Step} (downward : rest ≠ [])
    (value tree : Tree) :
    setBelow value (.position index :: rest) tree =
      .list (modifyItem index (setBelow value rest) tree.items) := by
  cases rest with
  | nil => exact absurd rfl downward
  | cons next rest => rfl

/-- Setting a value leaves alone what paths that part lead to, or fills a hole of a list there. -/
theorem reach?_setBelow_of_part (value : Tree) {first second : List Step}
    (part : Part first second) (firstPlain : ∀ step ∈ first, step.IsPlain)
    (secondPlain : ∀ step ∈ second, step.IsPlain) (tree : Tree) :
    (setBelow value first tree).reach? second = tree.reach? second ∨
      (tree.reach? second = Option.none ∧ ∃ index, second.getLast? = some (.position index)) := by
  induction first generalizing second tree with
  | nil => exact part.elim
  | cons step rest inductionHypothesis =>
      cases second with
      | nil => cases step <;> exact part.elim
      | cons other otherRest =>
          have plain := firstPlain step List.mem_cons_self
          have otherPlain := secondPlain other List.mem_cons_self
          -- Behind a common step the induction hypothesis speaks about the value at that step.
          have later (partLater : Part rest otherRest) (present : Tree) :
              (setBelow value rest present).reach? otherRest = present.reach? otherRest ∨
                (present.reach? otherRest = Option.none ∧
                  ∃ index, (other :: otherRest).getLast? = some (.position index)) := by
            have last : (other :: otherRest).getLast? = otherRest.getLast? := by
              cases otherRest with
              | nil => exact absurd rfl partLater.downward.2
              | cons _ _ => exact List.getLast?_cons_cons
            rw [last]
            exact inductionHypothesis partLater
              (fun step member => firstPlain step (List.mem_cons_of_mem _ member))
              (fun step member => secondPlain step (List.mem_cons_of_mem _ member)) present
          cases step with
          | child name =>
              cases other with
              | position index => exact part.elim
              | child otherName =>
                  by_cases same : otherName = name
                  · subst same
                    have partLater := part.resolve_left (· rfl)
                    rw [setBelow_child_of_downward partLater.downward.1, reach?_child, reach?_child,
                      entries, plain, Fields.get?_insert_self,
                      bind_reach? partLater.downward.2 (Fields.get? otherName tree.entries)]
                    exact later partLater _
                  · left
                    obtain ⟨changed, isTable, others⟩ := setBelow_child name value rest tree
                    rw [plain] at others
                    rw [isTable, reach?_child, reach?_child, entries, others otherName same]
          | position index =>
              cases other with
              | child otherName => exact part.elim
              | position otherIndex =>
                  by_cases same : otherIndex = index
                  · subst same
                    have partLater := part.resolve_left (· rfl)
                    rw [setBelow_position_of_downward otherIndex partLater.downward.1,
                      reach?_position plain, reach?_position plain, items,
                      getElem?_modifyItem_self plain,
                      bind_reach? partLater.downward.2 tree.items[otherIndex.toNat]?]
                    exact later partLater _
                  · obtain ⟨change, isList⟩ := setBelow_position index value rest tree
                    have different : otherIndex.toNat ≠ index.toNat := by
                      have fromStart : 0 ≤ index := plain
                      have otherFromStart : 0 ≤ otherIndex := otherPlain
                      omega
                    rw [isList, reach?_position otherPlain, reach?_position otherPlain, items]
                    rcases getElem?_modifyItem_of_ne change tree.items plain different with
                      unchanged | ⟨absent, filled⟩
                    · exact .inl (by rw [unchanged])
                    · cases otherRest with
                      | nil =>
                          right
                          rw [absent]
                          exact ⟨rfl, otherIndex, rfl⟩
                      | cons next otherRest =>
                          left
                          rw [absent, filled]
                          exact reach?_none (by simp)

/-! ### Setting many values -/

/-- Settings whose paths part in pairs, and whose values are put into tables as they stand. -/
structure Independent (settings : List (Path × Json)) : Prop where
  part : settings.Pairwise fun first second => Part first.1.descent second.1.descent
  plain : ∀ setting ∈ settings, ∀ step ∈ setting.1.descent, step.IsPlain
  canonical : ∀ setting ∈ settings, setting.2.canonical = setting.2
  lower : ∀ setting ∈ settings, setting.2.HasLowerNames

theorem Independent.of_cons {setting : Path × Json} {rest : List (Path × Json)}
    (independent : Independent (setting :: rest)) : Independent rest where
  part := (List.pairwise_cons.mp independent.part).2
  plain other member := independent.plain other (List.mem_cons_of_mem _ member)
  canonical other member := independent.canonical other (List.mem_cons_of_mem _ member)
  lower other member := independent.lower other (List.mem_cons_of_mem _ member)

/-- The tree with values set at their paths, one after the other. -/
def setEach (settings : List (Path × Json)) (tree : Tree) : Tree :=
  settings.foldl (fun tree setting => tree.set setting.1 (ofJson setting.2)) tree

/-- What was reached stays when values are set at paths that part. -/
theorem reach?_setEach_of_part {settings : List (Path × Json)} {steps : List Step} {value : Tree}
    (parts : ∀ setting ∈ settings, Part setting.1.descent steps)
    (settingsPlain : ∀ setting ∈ settings, ∀ step ∈ setting.1.descent, step.IsPlain)
    (plain : ∀ step ∈ steps, step.IsPlain) {tree : Tree} (reached : tree.reach? steps = some value) :
    (setEach settings tree).reach? steps = some value := by
  induction settings generalizing tree with
  | nil => exact reached
  | cons setting rest inductionHypothesis =>
      refine inductionHypothesis (fun other member => parts other (List.mem_cons_of_mem _ member))
        (fun other member => settingsPlain other (List.mem_cons_of_mem _ member)) ?_
      rcases reach?_setBelow_of_part (ofJson setting.2) (parts setting List.mem_cons_self)
        (settingsPlain setting List.mem_cons_self) plain tree with unchanged | ⟨absent, _⟩
      · exact unchanged.trans reached
      · simp [absent] at reached

theorem Vacant.set_of_part {tree : Tree} {steps : List Step} (vacant : Vacant tree steps)
    {path : Path} (part : Part path.descent steps)
    (pathPlain : ∀ step ∈ path.descent, step.IsPlain) (plain : ∀ step ∈ steps, step.IsPlain)
    (value : Tree) : Vacant (tree.set path value) steps := by
  intro name last
  rcases reach?_setBelow_of_part value part pathPlain plain tree with unchanged | ⟨_, index, isPosition⟩
  · exact unchanged.trans (vacant name last)
  · simp [last] at isPosition

/-- Every one of many independent values is reached at its path. -/
theorem reach?_setEach {settings : List (Path × Json)} (independent : Independent settings)
    {tree : Tree} (vacant : ∀ setting ∈ settings, Vacant tree setting.1.descent) :
    ∀ setting ∈ settings,
      (setEach settings tree).reach? setting.1.descent = some (ofJson setting.2) := by
  induction settings generalizing tree with
  | nil => simp
  | cons setting rest inductionHypothesis =>
      obtain ⟨parts, _⟩ := List.pairwise_cons.mp independent.part
      have plain := independent.plain setting List.mem_cons_self
      have restPlain : ∀ other ∈ rest, ∀ step ∈ other.1.descent, step.IsPlain :=
        independent.of_cons.plain
      intro other member
      rcases List.mem_cons.mp member with rfl | later
      · have reached : (tree.set other.1 (ofJson other.2)).reach? other.1.descent =
            some (ofJson other.2) :=
          reach?_setBelow (independent.canonical other List.mem_cons_self)
            (independent.lower other List.mem_cons_self) (by simp [Path.descent]) plain
            (vacant other List.mem_cons_self)
        exact reach?_setEach_of_part (fun later member => (parts later member).symm) restPlain plain
          reached
      · refine inductionHypothesis independent.of_cons ?_ other later
        intro next nextMember
        exact (vacant next (List.mem_cons_of_mem _ nextMember)).set_of_part (parts next nextMember)
          plain (restPlain next nextMember) _

theorem vacant_empty (path : Path) : Vacant empty path.descent :=
  fun _ _ => rfl

end Tree

end RemoteConfig
