import RemoteConfig.Json.Basic

/-!
Contract: named values in the order of their names, and documents all of whose objects are.

Owns:
- lists that are sorted by name, what is found in them, and how inserting keeps them sorted;
- the objects of a canonical document, and the values inside it;
- the canonical form is canonical.

Does not own: the texts whose reading gives a canonical document.
-/

namespace RemoteConfig

namespace Fields

variable {α β : Type}

/-- Every name is below all later ones, so no name stands twice. -/
def IsSorted (fields : List (String × α)) : Prop :=
  fields.Pairwise fun first second => first.1 < second.1

theorem get?_cons (key name : String) (value : α) (rest : List (String × α)) :
    get? key ((name, value) :: rest) = if key = name then some value else get? key rest := by
  by_cases same : key = name
  · simp [get?, same]
  · have unequal : (key == name) = false := by simpa using same
    simp [get?, List.lookup_cons, unequal, same]

theorem mem_of_get? {key : String} {value : α} {fields : List (String × α)}
    (found : get? key fields = some value) : (key, value) ∈ fields := by
  obtain ⟨_, _, rfl, _⟩ := List.lookup_eq_some_iff.mp found
  simp

theorem get?_eq_none {key : String} {fields : List (String × α)}
    (absent : ∀ field ∈ fields, field.1 ≠ key) : get? key fields = none := by
  cases found : get? key fields with
  | none => rfl
  | some value => exact absurd rfl (absent _ (mem_of_get? found))

/-- What stands in a sorted list is found under its name. -/
theorem get?_of_mem {fields : List (String × α)} (sorted : IsSorted fields) {key : String}
    {value : α} (member : (key, value) ∈ fields) : get? key fields = some value := by
  induction fields with
  | nil => cases member
  | cons field rest inductionHypothesis =>
      obtain ⟨name, present⟩ := field
      obtain ⟨below, restSorted⟩ := List.pairwise_cons.mp sorted
      rw [get?_cons]
      rcases List.mem_cons.mp member with isFirst | later
      · cases isFirst
        simp
      · have different : key ≠ name := by
          intro same
          have lower := below _ later
          simp only [same] at lower
          exact String.lt_irrefl _ lower
        rw [if_neg different]
        exact inductionHypothesis restSorted later

theorem get?_map (change : α → β) (key : String) (fields : List (String × α)) :
    get? key (fields.map fun field => (field.1, change field.2)) =
      (get? key fields).map change := by
  induction fields with
  | nil => rfl
  | cons field rest inductionHypothesis =>
      obtain ⟨name, present⟩ := field
      rw [List.map_cons, get?_cons, get?_cons, inductionHypothesis]
      split <;> rfl

/-! ### Inserting -/

theorem mem_of_mem_insert {key : String} {value : α} {fields : List (String × α)}
    {field : String × α} (member : field ∈ insert key value fields) :
    field = (key, value) ∨ field ∈ fields := by
  induction fields with
  | nil => simpa [insert] using member
  | cons first rest inductionHypothesis =>
      obtain ⟨name, present⟩ := first
      unfold insert at member
      split at member
      · rcases List.mem_cons.mp member with isNew | later
        · exact .inl isNew
        · exact .inr (List.mem_cons_of_mem _ later)
      · split at member
        · rcases List.mem_cons.mp member with isNew | later
          · exact .inl isNew
          · exact .inr later
        · rcases List.mem_cons.mp member with isFirst | later
          · exact .inr (isFirst ▸ List.mem_cons_self)
          · rcases inductionHypothesis later with isNew | old
            · exact .inl isNew
            · exact .inr (List.mem_cons_of_mem _ old)

theorem isSorted_insert (key : String) (value : α) {fields : List (String × α)}
    (sorted : IsSorted fields) : IsSorted (insert key value fields) := by
  induction fields with
  | nil => simp [insert, IsSorted]
  | cons field rest inductionHypothesis =>
      obtain ⟨name, present⟩ := field
      obtain ⟨below, restSorted⟩ := List.pairwise_cons.mp sorted
      unfold insert
      split
      · rename_i same
        subst same
        exact List.pairwise_cons.mpr ⟨below, restSorted⟩
      · rename_i different
        split
        · rename_i before
          refine List.pairwise_cons.mpr ⟨?_, sorted⟩
          intro later member
          rcases List.mem_cons.mp member with rfl | member
          · exact before
          · exact String.lt_trans before (below later member)
        · rename_i notBefore
          have after : name < key := by
            by_cases lower : name < key
            · exact lower
            · exact absurd
                (String.le_antisymm (String.not_lt.mp lower) (String.not_lt.mp notBefore)) different
          refine List.pairwise_cons.mpr ⟨?_, inductionHypothesis restSorted⟩
          intro later member
          rcases mem_of_mem_insert member with rfl | old
          · exact after
          · exact below later old

/-- A name above all others is inserted at the end. -/
theorem insert_of_above {key : String} {fields : List (String × α)}
    (above : ∀ field ∈ fields, field.1 < key) (value : α) :
    insert key value fields = fields ++ [(key, value)] := by
  induction fields with
  | nil => rfl
  | cons field rest inductionHypothesis =>
      obtain ⟨name, present⟩ := field
      have lower : name < key := above _ List.mem_cons_self
      have different : key ≠ name := by
        rintro rfl
        exact String.lt_irrefl _ lower
      rw [insert, if_neg different, if_neg (String.lt_asymm lower),
        inductionHypothesis fun field member => above field (List.mem_cons_of_mem _ member)]
      rfl

theorem isSorted_foldl_insert (pairs : List (String × α)) {fields : List (String × α)}
    (sorted : IsSorted fields) :
    IsSorted (pairs.foldl (fun fields pair => insert pair.1 pair.2 fields) fields) := by
  induction pairs generalizing fields with
  | nil => exact sorted
  | cons pair rest inductionHypothesis => exact inductionHypothesis (isSorted_insert _ _ sorted)

theorem isSorted_ofList (pairs : List (String × α)) : IsSorted (ofList pairs) :=
  isSorted_foldl_insert pairs List.Pairwise.nil

theorem mem_of_mem_foldl_insert {pairs fields : List (String × α)} {field : String × α}
    (member : field ∈ pairs.foldl (fun fields pair => insert pair.1 pair.2 fields) fields) :
    field ∈ fields ∨ field ∈ pairs := by
  induction pairs generalizing fields with
  | nil => exact .inl member
  | cons pair rest inductionHypothesis =>
      rcases inductionHypothesis member with inserted | later
      · rcases mem_of_mem_insert inserted with rfl | old
        · exact .inr List.mem_cons_self
        · exact .inl old
      · exact .inr (List.mem_cons_of_mem _ later)

/-- Sorting pairs adds none. -/
theorem mem_of_mem_ofList {pairs : List (String × α)} {field : String × α}
    (member : field ∈ ofList pairs) : field ∈ pairs :=
  (mem_of_mem_foldl_insert member).resolve_left List.not_mem_nil

theorem foldl_insert_of_isSorted {fields pairs : List (String × α)}
    (sorted : IsSorted (fields ++ pairs)) :
    pairs.foldl (fun fields pair => insert pair.1 pair.2 fields) fields = fields ++ pairs := by
  induction pairs generalizing fields with
  | nil => simp
  | cons pair rest inductionHypothesis =>
      have above : ∀ field ∈ fields, field.1 < pair.1 := fun field member =>
        (List.pairwise_append.mp sorted).2.2 field member pair List.mem_cons_self
      rw [List.foldl_cons, insert_of_above above, inductionHypothesis (by simpa using sorted)]
      simp

/-- A sorted list is the sorted list of its pairs. -/
theorem ofList_of_isSorted {pairs : List (String × α)} (sorted : IsSorted pairs) :
    ofList pairs = pairs := by
  have whole : IsSorted ([] ++ pairs) := by simpa using sorted
  exact foldl_insert_of_isSorted whole

theorem insert_map (change : α → β) (key : String) (value : α) (fields : List (String × α)) :
    insert key (change value) (fields.map fun field => (field.1, change field.2)) =
      (insert key value fields).map fun field => (field.1, change field.2) := by
  induction fields with
  | nil => rfl
  | cons field rest inductionHypothesis =>
      obtain ⟨name, present⟩ := field
      simp only [List.map_cons, insert, inductionHypothesis]
      split
      · rfl
      · split <;> rfl

theorem ofList_map (change : α → β) (pairs : List (String × α)) :
    ofList (pairs.map fun pair => (pair.1, change pair.2)) =
      (ofList pairs).map fun pair => (pair.1, change pair.2) := by
  have fold (fields : List (String × α)) :
      (pairs.map fun pair => (pair.1, change pair.2)).foldl
          (fun fields pair => insert pair.1 pair.2 fields)
          (fields.map fun pair => (pair.1, change pair.2)) =
        (pairs.foldl (fun fields pair => insert pair.1 pair.2 fields) fields).map
          fun pair => (pair.1, change pair.2) := by
    induction pairs generalizing fields with
    | nil => rfl
    | cons pair rest inductionHypothesis =>
        rw [List.map_cons, List.foldl_cons, List.foldl_cons, ← inductionHypothesis,
          ← insert_map change]
  exact fold []

/-! ### What a sorted list consists of -/

theorem perm_insert {key : String} {fields : List (String × α)}
    (new : ∀ field ∈ fields, field.1 ≠ key) (value : α) :
    (insert key value fields).Perm ((key, value) :: fields) := by
  induction fields with
  | nil => exact List.Perm.refl _
  | cons field rest inductionHypothesis =>
      obtain ⟨name, present⟩ := field
      obtain ⟨different, restNew⟩ := List.forall_mem_cons.mp new
      rw [insert, if_neg (Ne.symm different)]
      split
      · exact List.Perm.refl _
      · exact ((inductionHypothesis restNew).cons _).trans (List.Perm.swap _ _ _)

/-- Sorting pairs of distinct names neither loses nor adds one. -/
theorem perm_ofList {pairs : List (String × α)} (distinct : (pairs.map Prod.fst).Nodup) :
    (ofList pairs).Perm pairs := by
  have fold (fields : List (String × α)) (apart : ((pairs ++ fields).map Prod.fst).Nodup) :
      (pairs.foldl (fun fields pair => insert pair.1 pair.2 fields) fields).Perm
        (pairs ++ fields) := by
    clear distinct
    induction pairs generalizing fields with
    | nil => exact List.Perm.refl _
    | cons pair rest inductionHypothesis =>
        rw [List.cons_append, List.map_cons, List.nodup_cons] at apart
        have new : ∀ field ∈ fields, field.1 ≠ pair.1 := by
          intro field member same
          refine apart.1 (List.mem_map.mpr ⟨field, ?_, same⟩)
          exact List.mem_append_right _ member
        have inserted : (rest ++ insert pair.1 pair.2 fields).Perm (pair :: (rest ++ fields)) :=
          ((perm_insert new pair.2).append_left rest).trans List.perm_middle
        rw [List.foldl_cons]
        refine (inductionHypothesis (insert pair.1 pair.2 fields) ?_).trans inserted
        rw [(inserted.map Prod.fst).nodup_iff, List.map_cons, List.nodup_cons]
        exact apart
  simpa [ofList] using fold [] (by simpa using distinct)

/-- Sorted lists in which the same is found are equal. -/
theorem eq_of_get? {first second : List (String × α)} (firstSorted : IsSorted first)
    (secondSorted : IsSorted second) (same : ∀ key, get? key first = get? key second) :
    first = second := by
  have nodup {fields : List (String × α)} (sorted : IsSorted fields) : fields.Nodup := by
    refine List.Pairwise.imp ?_ sorted
    rintro field other below rfl
    exact String.lt_irrefl _ below
  have members : ∀ field, field ∈ first ↔ field ∈ second := by
    rintro ⟨key, value⟩
    constructor
    · intro member
      exact mem_of_get? (same key ▸ get?_of_mem firstSorted member)
    · intro member
      exact mem_of_get? (same key ▸ get?_of_mem secondSorted member)
  have perm : first.Perm second :=
    (List.perm_ext_iff_of_nodup (nodup firstSorted) (nodup secondSorted)).mpr members
  refine perm.eq_of_pairwise ?_ firstSorted secondSorted
  intro left right _ _ below above
  exact absurd (String.lt_trans below above) (String.lt_irrefl _)

end Fields

namespace Json

/-! ### Canonical documents -/

theorem canonicalItems_eq_map (items : List Json) : canonicalItems items = items.map canonical := by
  induction items with
  | nil => rfl
  | cons item rest inductionHypothesis => rw [canonicalItems, inductionHypothesis, List.map_cons]

theorem canonicalFields_eq_map (fields : List (String × Json)) :
    canonicalFields fields = fields.map fun field => (field.1, canonical field.2) := by
  induction fields with
  | nil => rfl
  | cons field rest inductionHypothesis =>
      rw [canonicalFields, inductionHypothesis, List.map_cons]

/-- The fields of a canonical object are sorted. -/
theorem isSorted_of_canonical {fields : List (String × Json)}
    (isCanonical : (object fields).canonical = .object fields) : Fields.IsSorted fields := by
  rw [canonical, Json.object.injEq] at isCanonical
  rw [← isCanonical]
  exact Fields.isSorted_ofList _

/-- The fields of a canonical object are canonical. -/
theorem canonical_of_mem_fields {fields : List (String × Json)}
    (isCanonical : (object fields).canonical = .object fields) {field : String × Json}
    (member : field ∈ fields) : field.2.canonical = field.2 := by
  have sorted := isSorted_of_canonical isCanonical
  have sortedToo : Fields.IsSorted (canonicalFields fields) := by
    rw [canonicalFields_eq_map]
    exact List.pairwise_map.mpr sorted
  rw [canonical, Fields.ofList_of_isSorted sortedToo, Json.object.injEq,
    canonicalFields_eq_map] at isCanonical
  have unchanged := List.map_inj_left.mp (isCanonical.trans (List.map_id fields).symm) field member
  exact congrArg Prod.snd unchanged

theorem canonical_of_mem_items {items : List Json}
    (isCanonical : (array items).canonical = .array items) {item : Json} (member : item ∈ items) :
    item.canonical = item := by
  rw [canonical, Json.array.injEq, canonicalItems_eq_map] at isCanonical
  exact List.map_inj_left.mp (isCanonical.trans (List.map_id items).symm) item member

mutual

/-- The canonical form of a document is canonical. -/
theorem canonical_canonical : ∀ value : Json, value.canonical.canonical = value.canonical
  | .null | .bool _ | .number _ | .string _ => rfl
  | .array items => by
      simp only [canonical, canonicalItems_canonicalItems items]
  | .object fields => by
      have same := canonicalFields_canonicalFields fields
      rw [canonicalFields_eq_map] at same
      rw [canonical, canonical, canonicalFields_eq_map (Fields.ofList _), ← Fields.ofList_map, same,
        Fields.ofList_of_isSorted (Fields.isSorted_ofList _)]

theorem canonicalItems_canonicalItems :
    ∀ items : List Json, canonicalItems (canonicalItems items) = canonicalItems items
  | [] => rfl
  | item :: rest => by
      rw [canonicalItems, canonicalItems, canonical_canonical item,
        canonicalItems_canonicalItems rest]

theorem canonicalFields_canonicalFields :
    ∀ fields : List (String × Json), canonicalFields (canonicalFields fields) = canonicalFields fields
  | [] => rfl
  | (_, value) :: rest => by
      rw [canonicalFields, canonicalFields, canonical_canonical value,
        canonicalFields_canonicalFields rest]

end

end Json

end RemoteConfig
