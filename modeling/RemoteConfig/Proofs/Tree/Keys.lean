import RemoteConfig.Proofs.Tree.Writes

/-!
Contract: setting values under the texts of keys, seen from a path of names.

Owns:
- the place that a key leads to, whose names are in lower case;
- a value that is set at a path of names is there, and one that is set at a place which parts from the
  path leaves alone what was there;
- what stands above a path stays or becomes a table;
- the tables that names lead to stay sorted.

Does not own: the keys of variables.
-/

namespace RemoteConfig.Tree

/-! ### Places -/

/-- A step as setting a value takes it: a name is put into lower case. -/
def Step.lowered : Step → Step
  | .child name => .child (Text.lowercase name)
  | .position index => .position index

/-- The steps that the text of a key stands for. -/
def written (key : String) : List Step :=
  match Path.parse? key with
  | some path => path.descent
  | Option.none => [.child key]

/-- The place of a value that is set under a key. -/
def place (key : String) : List Step :=
  (written key).map Step.lowered

/-- The steps down some names. -/
def named (names : List String) : List Step :=
  names.map .child

theorem named_cons (name : String) (below : List String) :
    named (name :: below) = .child name :: named below :=
  rfl

instance decidablePart : ∀ first second : List Step, Decidable (Part first second)
  | [], _ => isFalse fun part => part.elim
  | .child _ :: _, [] => isFalse fun part => part.elim
  | .position _ :: _, [] => isFalse fun part => part.elim
  | .child _ :: _, .position _ :: _ => isFalse fun part => part.elim
  | .position _ :: _, .child _ :: _ => isFalse fun part => part.elim
  | .child first :: firstRest, .child second :: secondRest =>
    have := decidablePart firstRest secondRest
    inferInstanceAs (Decidable (first ≠ second ∨ Part firstRest secondRest))
  | .position first :: firstRest, .position second :: secondRest =>
    have := decidablePart firstRest secondRest
    inferInstanceAs (Decidable (first ≠ second ∨ Part firstRest secondRest))

theorem setWritten_eq (tree : Tree) (key : String) (value : Tree) :
    tree.setWritten key value = setBelow value (written key) tree := by
  unfold setWritten written
  cases Path.parse? key <;> rfl

theorem written_eq_cons (key : String) : ∃ name rest, written key = .child name :: rest := by
  unfold written
  cases Path.parse? key with
  | none => exact ⟨key, [], rfl⟩
  | some path => exact ⟨path.root, path.steps, rfl⟩

/-! ### What stands at a path of names -/

variable {steps : List Step} {names : List String}

/-- Setting a value at a place that parts from a path of names leaves alone what is there. -/
theorem reach?_setBelow_of_apart (value : Tree)
    (apart : Part (steps.map Step.lowered) (named names)) (tree : Tree) :
    (setBelow value steps tree).reach? (named names) = tree.reach? (named names) := by
  induction steps generalizing names tree with
  | nil => exact apart.elim
  | cons step rest inductionHypothesis =>
      cases names with
      | nil => cases step <;> exact apart.elim
      | cons name below =>
          cases step with
          | position index => exact apart.elim
          | child spelled =>
              rw [named_cons, reach?_child, reach?_child]
              -- Behind a common name the claim is about the value there, else the name is not touched.
              by_cases same : name = Text.lowercase spelled
              · subst same
                have later : Part (rest.map Step.lowered) (named below) :=
                  apart.resolve_left (· rfl)
                have downward : rest ≠ [] := by
                  rintro rfl
                  exact later.elim
                rw [setBelow_child_of_downward downward, entries, Fields.get?_insert_self,
                  bind_reach? later.downward.2 (Fields.get? _ tree.entries)]
                exact inductionHypothesis later _
              · obtain ⟨changed, isTable, others⟩ := setBelow_child spelled value rest tree
                rw [isTable, entries, others name same]

theorem mergeEntry_of_noTable {value : Tree} (noTable : ∀ entries, value ≠ .table entries)
    (name : String) (entries : List (String × Tree)) :
    mergeEntry name entries value = Fields.insert (Text.lowercase name) value entries :=
  mergeEntry.eq_4 name entries value noTable

theorem reach?_setBelow_self {value : Tree} (noTable : ∀ entries, value ≠ .table entries)
    (leads : steps.map Step.lowered = named names) (nonempty : names ≠ []) (tree : Tree) :
    (setBelow value steps tree).reach? (named names) = some value := by
  induction names generalizing steps tree with
  | nil => exact absurd rfl nonempty
  | cons name below inductionHypothesis =>
      obtain ⟨step, rest, rfl, isFirst, isRest⟩ := List.map_eq_cons_iff.mp leads
      cases step with
      | position index => cases isFirst
      | child spelled =>
          obtain rfl : Text.lowercase spelled = name := Step.child.inj isFirst
          rw [named_cons, reach?_child]
          cases below with
          | nil =>
              obtain rfl : rest = [] := List.map_eq_nil_iff.mp isRest
              rw [setBelow, entries, mergeEntry_of_noTable noTable, Fields.get?_insert_self]
              rfl
          | cons next below =>
              have downward : rest ≠ [] := by
                rintro rfl
                cases isRest
              rw [setBelow_child_of_downward downward, entries, Fields.get?_insert_self]
              exact inductionHypothesis isRest (List.cons_ne_nil _ _) _

/-- A place that is a path of names, or parts from one. -/
def Meets (steps : List Step) (names : List String) : Prop :=
  steps = named names ∨ Part steps (named names)

theorem Meets.cons {step : Step} {name : String} {below : List String}
    (meets : Meets (step :: steps) (name :: below)) :
    ∃ first, step = .child first ∧ (first = name → Meets steps below) := by
  cases step with
  | position index => exact meets.elim nofun False.elim
  | child first =>
      refine ⟨first, rfl, fun same => meets.imp (fun leads => (List.cons.inj leads).2) fun apart => ?_⟩
      exact apart.resolve_left (· same)

theorem Meets.ne_nil (meets : Meets steps names) (nonempty : names ≠ []) : steps ≠ [] := by
  rintro rfl
  rcases meets with leads | apart
  · exact nonempty (List.map_eq_nil_iff.mp leads.symm)
  · exact apart.elim

theorem exists_setBelow_eq_table (value : Tree) (nonempty : names ≠ [])
    (meets : Meets (steps.map Step.lowered) names) (tree : Tree) :
    ∃ entries, setBelow value steps tree = .table entries := by
  obtain ⟨name, below, rfl⟩ := List.exists_cons_of_ne_nil nonempty
  cases steps with
  | nil => exact absurd rfl (meets.ne_nil nonempty)
  | cons step rest =>
      obtain ⟨first, isFirst, _⟩ := Meets.cons meets
      cases step with
      | position index => cases isFirst
      | child spelled =>
          obtain ⟨changed, isTable, _⟩ := setBelow_child spelled value rest tree
          exact ⟨changed, isTable⟩

/-- Above a path of names, setting a value there or at a place that parts from it changes nothing or
leaves a table. -/
theorem reach?_setBelow_above (value : Tree) {front behind : List String} (below : behind ≠ [])
    (meets : Meets (steps.map Step.lowered) (front ++ behind)) (tree : Tree) :
    (setBelow value steps tree).reach? (named front) = tree.reach? (named front) ∨
      ∃ entries, (setBelow value steps tree).reach? (named front) = some (.table entries) := by
  induction front generalizing steps tree with
  | nil =>
      obtain ⟨changed, isTable⟩ := exists_setBelow_eq_table value below meets tree
      exact .inr ⟨changed, by rw [isTable]; rfl⟩
  | cons name front inductionHypothesis =>
      cases steps with
      | nil => exact absurd rfl (meets.ne_nil (List.cons_ne_nil _ _))
      | cons step rest =>
          obtain ⟨first, isFirst, behindFirst⟩ := Meets.cons meets
          cases step with
          | position index => cases isFirst
          | child spelled =>
              obtain rfl : Text.lowercase spelled = first := Step.child.inj isFirst
              rw [named_cons, reach?_child, reach?_child]
              by_cases same : name = Text.lowercase spelled
              · have later := behindFirst same.symm
                have inside : front ++ behind ≠ [] := fun none =>
                  below (List.append_eq_nil_iff.mp none).2
                have downward : rest ≠ [] := fun none =>
                  later.ne_nil inside (List.map_eq_nil_iff.mpr none)
                rw [setBelow_child_of_downward downward, entries, same, Fields.get?_insert_self,
                  Option.bind_some]
                cases front with
                | nil =>
                    obtain ⟨changed, isTable⟩ := exists_setBelow_eq_table value inside later
                      ((Fields.get? (Text.lowercase spelled) tree.entries).getD .none)
                    exact .inr ⟨changed, by rw [isTable]; rfl⟩
                | cons next front =>
                    rw [bind_reach? (by simp [named]) (Fields.get? _ tree.entries)]
                    exact inductionHypothesis later _
              · obtain ⟨changed, isTable, others⟩ := setBelow_child spelled value rest tree
                rw [isTable, entries, others name same]
                exact .inl rfl

/-! ### Sorted tables -/

/-- Are the tables sorted that names lead to? -/
def HasSortedTables (tree : Tree) : Prop :=
  ∀ names entries, tree.reach? (named names) = some (.table entries) → Fields.IsSorted entries

theorem hasSortedTables_of_noTable {tree : Tree} (noTable : ∀ entries, tree ≠ .table entries) :
    HasSortedTables tree := by
  intro names entries reached
  cases names with
  | nil => exact absurd (Option.some.inj reached) (noTable entries)
  | cons name below =>
      have bare : tree.entries = [] := by
        cases tree with
        | table found => exact absurd rfl (noTable found)
        | _ => rfl
      rw [named_cons, reach?_child, bare] at reached
      cases reached

theorem hasSortedTables_table {entries : List (String × Tree)} :
    HasSortedTables (.table entries) ↔ Fields.IsSorted entries ∧
      ∀ name value, Fields.get? name entries = some value → HasSortedTables value := by
  constructor
  · intro sorted
    refine ⟨sorted [] entries rfl, fun name value found names inner reached => ?_⟩
    refine sorted (name :: names) inner ?_
    rw [named_cons, reach?_child, Tree.entries, found]
    exact reached
  · rintro ⟨sorted, below⟩ names inner reached
    cases names with
    | nil =>
        cases reached
        exact sorted
    | cons name names =>
        rw [named_cons, reach?_child] at reached
        obtain ⟨value, found, leads⟩ := Option.bind_eq_some_iff.mp reached
        exact below name value found names inner leads

theorem hasSortedTables_empty : HasSortedTables empty :=
  hasSortedTables_table.mpr ⟨List.Pairwise.nil, nofun⟩

theorem HasSortedTables.entries {tree : Tree} (sorted : HasSortedTables tree) :
    HasSortedTables (.table tree.entries) := by
  cases tree with
  | table found => exact sorted
  | _ => exact hasSortedTables_empty

theorem HasSortedTables.below {tree : Tree} (sorted : HasSortedTables tree) (name : String) :
    HasSortedTables ((Fields.get? name tree.entries).getD .none) := by
  cases found : Fields.get? name tree.entries with
  | none => exact hasSortedTables_of_noTable nofun
  | some value => exact (hasSortedTables_table.mp sorted.entries).2 name value found

theorem HasSortedTables.insert {entries : List (String × Tree)} {value : Tree}
    (sorted : HasSortedTables (.table entries)) (inside : HasSortedTables value) (name : String) :
    HasSortedTables (.table (Fields.insert name value entries)) := by
  obtain ⟨isSorted, below⟩ := hasSortedTables_table.mp sorted
  refine hasSortedTables_table.mpr ⟨Fields.isSorted_insert name value isSorted, ?_⟩
  intro other found isFound
  by_cases same : other = name
  · rw [same, Fields.get?_insert_self] at isFound
    exact Option.some.inj isFound ▸ inside
  · rw [Fields.get?_insert_of_ne same] at isFound
    exact below other found isFound

theorem HasSortedTables.mergeEntry_of_noTable {entries : List (String × Tree)} {value : Tree}
    (sorted : HasSortedTables (.table entries)) (noTable : ∀ entries, value ≠ .table entries)
    (name : String) : HasSortedTables (.table (mergeEntry name entries value)) := by
  rw [Tree.mergeEntry_of_noTable noTable]
  exact sorted.insert (hasSortedTables_of_noTable noTable) _

mutual

theorem hasSortedTables_mergeEntry : ∀ (value : Tree) (name : String)
    {entries : List (String × Tree)}, HasSortedTables (.table entries) →
      HasSortedTables (.table (mergeEntry name entries value))
  | .table incoming, name, entries, sorted => by
      cases found : Fields.get? (Text.lowercase name) entries with
      | none =>
          rw [mergeEntry.eq_3 _ _ _ found]
          exact sorted.insert (hasSortedTables_mergeEntries incoming hasSortedTables_empty) _
      | some present =>
          have inside := (hasSortedTables_table.mp sorted).2 _ present found
          by_cases bare : incoming = []
          · -- An empty table changes nothing where there is a value.
            subst bare
            rw [mergeEntry.eq_1 _ _ _ found]
            exact sorted.insert inside _
          · rw [mergeEntry.eq_2 _ _ _ _ found bare]
            exact sorted.insert (hasSortedTables_mergeEntries incoming inside.entries) _
  | .none, name, _, sorted => sorted.mergeEntry_of_noTable (by simp) name
  | .bool _, name, _, sorted => sorted.mergeEntry_of_noTable (by simp) name
  | .integer _, name, _, sorted => sorted.mergeEntry_of_noTable (by simp) name
  | .double _, name, _, sorted => sorted.mergeEntry_of_noTable (by simp) name
  | .string _, name, _, sorted => sorted.mergeEntry_of_noTable (by simp) name
  | .list _, name, _, sorted => sorted.mergeEntry_of_noTable (by simp) name

theorem hasSortedTables_mergeEntries : ∀ (incoming : List (String × Tree))
    {entries : List (String × Tree)}, HasSortedTables (.table entries) →
      HasSortedTables (.table (mergeEntries entries incoming))
  | [], _, sorted => sorted
  | (name, value) :: rest, _, sorted => by
      rw [mergeEntries]
      exact hasSortedTables_mergeEntries rest (hasSortedTables_mergeEntry value name sorted)

end

theorem HasSortedTables.setBelow (value : Tree) (downward : steps ≠ []) {tree : Tree}
    (sorted : HasSortedTables tree) : HasSortedTables (setBelow value steps tree) := by
  induction steps generalizing tree with
  | nil => exact absurd rfl downward
  | cons step rest inductionHypothesis =>
      cases step with
      | position index =>
          obtain ⟨change, isList⟩ := setBelow_position index value rest tree
          rw [isList]
          exact hasSortedTables_of_noTable nofun
      | child name =>
          cases rest with
          | nil => exact hasSortedTables_mergeEntry value name sorted.entries
          | cons next rest =>
              rw [Tree.setBelow]
              exact sorted.entries.insert
                (inductionHypothesis (List.cons_ne_nil _ _) (sorted.below _)) _

theorem exists_setWritten_eq_table (tree : Tree) (key : String) (value : Tree) :
    ∃ entries, tree.setWritten key value = .table entries := by
  obtain ⟨name, rest, isWritten⟩ := written_eq_cons key
  obtain ⟨changed, isTable, _⟩ := setBelow_child name value rest tree
  exact ⟨changed, by rw [setWritten_eq, isWritten, isTable]⟩

theorem HasSortedTables.setWritten {tree : Tree} (sorted : HasSortedTables tree) (key : String)
    (value : Tree) : HasSortedTables (tree.setWritten key value) := by
  obtain ⟨name, rest, isWritten⟩ := written_eq_cons key
  rw [setWritten_eq, isWritten]
  exact sorted.setBelow value (List.cons_ne_nil _ _)

theorem foldl_setWritten_isTable (settings : List (String × Tree)) {entries : List (String × Tree)}
    (sorted : HasSortedTables (.table entries)) :
    ∃ changed, settings.foldl (fun (reached : Tree) setting =>
        reached.setWritten setting.1 setting.2) (.table entries) = .table changed ∧
      HasSortedTables (.table changed) := by
  induction settings generalizing entries with
  | nil => exact ⟨entries, rfl, sorted⟩
  | cons setting rest inductionHypothesis =>
      obtain ⟨found, isTable⟩ := exists_setWritten_eq_table (.table entries) setting.1 setting.2
      have stillSorted := sorted.setWritten setting.1 setting.2
      rw [isTable] at stillSorted
      rw [List.foldl_cons, isTable]
      exact inductionHypothesis stillSorted

end RemoteConfig.Tree
