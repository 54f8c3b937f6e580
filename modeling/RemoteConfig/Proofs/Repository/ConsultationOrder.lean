import Mathlib.Data.List.Nodup
import RemoteConfig.Repository.Composite

/-!
Contract: the order in which a composite consults the repositories that were added to it.

Owns:
- stable sorts of repositories by their order, of which each list has exactly one;
- adding a repository to sorted ones sorts all of them, and so does any run of additions;
- the sequence of additions makes no difference when all orders differ.

Does not own: whom a composite asks, and what becomes of the answers.
-/

namespace RemoteConfig.Repository

variable {σ : Type}

def precedesOrEquals (first second : Repository σ) : Bool :=
  first.order ≤ second.order

/-- The repositories of one order, as they stand in a list. -/
def ofOrder (order : Int) (repositories : List (Repository σ)) : List (Repository σ) :=
  repositories.filter fun repository => repository.order = order

/-- A list holds the given repositories in ascending order, and those of equal order as given. -/
structure IsStableSort (given sorted : List (Repository σ)) : Prop where
  perm : sorted.Perm given
  ascending : sorted.Pairwise fun first second => first.order ≤ second.order
  stable : ∀ order, ofOrder order sorted = ofOrder order given

/-! ### Adding one repository -/

variable {added : Repository σ} {given sorted repositories : List (Repository σ)}

variable (added repositories) in
theorem perm_insertByOrder : (insertByOrder added repositories).Perm (added :: repositories) := by
  induction repositories with
  | nil => exact .refl _
  | cons first rest inductionHypothesis =>
      unfold insertByOrder
      split
      · exact (inductionHypothesis.cons first).trans (.swap added first rest)
      · exact .refl _

theorem ascending_insertByOrder
    (ascending : repositories.Pairwise fun first second => first.order ≤ second.order) :
    (insertByOrder added repositories).Pairwise fun first second => first.order ≤ second.order := by
  induction repositories with
  | nil => exact List.pairwise_singleton _ _
  | cons first rest inductionHypothesis =>
      obtain ⟨least, restAscending⟩ := List.pairwise_cons.mp ascending
      unfold insertByOrder
      split
      · rename_i notLess
        refine List.pairwise_cons.mpr ⟨?_, inductionHypothesis restAscending⟩
        intro other member
        rcases List.mem_cons.mp ((perm_insertByOrder added rest).mem_iff.mp member) with rfl | old
        · exact notLess
        · exact least other old
      · rename_i less
        have addedLess : added.order ≤ first.order := by omega
        refine List.pairwise_cons.mpr ⟨?_, ascending⟩
        intro other member
        rcases List.mem_cons.mp member with rfl | later
        · exact addedLess
        · exact Int.le_trans addedLess (least other later)

/-- Among the repositories of its own order the added one comes last. -/
theorem ofOrder_insertByOrder
    (ascending : repositories.Pairwise fun first second => first.order ≤ second.order)
    (order : Int) :
    ofOrder order (insertByOrder added repositories) = ofOrder order (repositories ++ [added]) := by
  induction repositories with
  | nil => rfl
  | cons first rest inductionHypothesis =>
      obtain ⟨least, restAscending⟩ := List.pairwise_cons.mp ascending
      unfold insertByOrder
      split
      · have later := inductionHypothesis restAscending
        unfold ofOrder at later ⊢
        rw [List.cons_append, List.filter_cons, List.filter_cons, later]
      · rename_i less
        -- All that are there are of a greater order, so none of them shares the order of the added one.
        have greater : ∀ other ∈ first :: rest, added.order < other.order := by
          intro other member
          rcases List.mem_cons.mp member with rfl | later
          · omega
          · have := least other later
            omega
        unfold ofOrder
        rw [List.filter_cons, List.filter_append]
        by_cases own : added.order = order
        · have none : (first :: rest).filter (fun repository => repository.order = order) = [] := by
            apply List.filter_eq_nil_iff.mpr
            intro other member
            have above := greater other member
            simp only [decide_eq_true_eq]
            omega
          simp [own, none]
        · simp [own]

theorem IsStableSort.insert (isSorted : IsStableSort given sorted) (added : Repository σ) :
    IsStableSort (given ++ [added]) (insertByOrder added sorted) where
  perm := by
    have behind : (added :: sorted).Perm (given ++ [added]) :=
      (isSorted.perm.cons added).trans (List.perm_append_singleton added given).symm
    exact (perm_insertByOrder added sorted).trans behind
  ascending := ascending_insertByOrder isSorted.ascending
  stable order := by
    have before := isSorted.stable order
    rw [ofOrder_insertByOrder isSorted.ascending]
    unfold ofOrder at before ⊢
    rw [List.filter_append, List.filter_append, before]

/-! ### Runs of additions -/

theorem IsStableSort.foldl_insert (isSorted : IsStableSort given sorted)
    (additions : List (Repository σ)) :
    IsStableSort (given ++ additions)
      (additions.foldl (fun sorted added => insertByOrder added sorted) sorted) := by
  induction additions generalizing given sorted with
  | nil => simpa using isSorted
  | cons added rest inductionHypothesis =>
      have later := inductionHypothesis (isSorted.insert added)
      rwa [List.append_assoc, List.singleton_append] at later

variable (repositories) in
theorem isStableSort_consulted : IsStableSort repositories (consulted repositories) := by
  have nothing : IsStableSort (σ := σ) [] [] := ⟨.refl _, .nil, fun _ => rfl⟩
  exact nothing.foldl_insert repositories

variable (repositories added) in
theorem consulted_append_singleton :
    consulted (repositories ++ [added]) = insertByOrder added (consulted repositories) := by
  simp [consulted]

/-! ### There is one stable sort -/

/-- Ascending lists are equal when they agree on the repositories of each order. -/
theorem eq_of_ofOrder {first second : List (Repository σ)}
    (ascending : first.Pairwise fun one other => one.order ≤ other.order)
    (otherAscending : second.Pairwise fun one other => one.order ≤ other.order)
    (same : ∀ order, ofOrder order first = ofOrder order second) : first = second := by
  induction first generalizing second with
  | nil =>
      cases second with
      | nil => rfl
      | cons head rest => simpa [ofOrder] using same head.order
  | cons head rest inductionHypothesis =>
      cases second with
      | nil => simpa [ofOrder] using same head.order
      | cons otherHead otherRest =>
          obtain ⟨least, restAscending⟩ := List.pairwise_cons.mp ascending
          obtain ⟨otherLeast, otherRestAscending⟩ := List.pairwise_cons.mp otherAscending
          have member : otherHead ∈ ofOrder otherHead.order (head :: rest) := by
            rw [same]
            simp [ofOrder]
          have otherMember : head ∈ ofOrder head.order (otherHead :: otherRest) := by
            rw [← same]
            simp [ofOrder]
          have below : head.order ≤ otherHead.order := by
            rcases List.mem_cons.mp (List.mem_filter.mp member).1 with isHead | later
            · exact Int.le_of_eq (congrArg Repository.order isHead.symm)
            · exact least otherHead later
          have above : otherHead.order ≤ head.order := by
            rcases List.mem_cons.mp (List.mem_filter.mp otherMember).1 with isHead | later
            · exact Int.le_of_eq (congrArg Repository.order isHead.symm)
            · exact otherLeast head later
          have sameOrder : otherHead.order = head.order := by omega
          have heads := same head.order
          simp only [ofOrder, List.filter_cons, sameOrder, decide_true, if_true,
            List.cons.injEq] at heads
          rw [heads.1]
          congr 1
          apply inductionHypothesis restAscending otherRestAscending
          intro order
          have atOrder := same order
          unfold ofOrder at atOrder ⊢
          rw [List.filter_cons, List.filter_cons, heads.1] at atOrder
          split at atOrder
          · exact (List.cons.inj atOrder).2
          · exact atOrder

theorem IsStableSort.unique {other : List (Repository σ)} (isSorted : IsStableSort given sorted)
    (isOther : IsStableSort given other) : sorted = other := by
  apply eq_of_ofOrder isSorted.ascending isOther.ascending
  intro order
  rw [isSorted.stable, isOther.stable]

theorem precedesOrEquals_trans (first second third : Repository σ)
    (before : precedesOrEquals first second = true)
    (behind : precedesOrEquals second third = true) : precedesOrEquals first third = true := by
  simp only [precedesOrEquals, decide_eq_true_eq] at before behind ⊢
  omega

theorem precedesOrEquals_total (first second : Repository σ) :
    (precedesOrEquals first second || precedesOrEquals second first) = true := by
  simp only [precedesOrEquals, Bool.or_eq_true, decide_eq_true_eq]
  omega

variable (given) in
theorem isStableSort_mergeSort : IsStableSort given (given.mergeSort precedesOrEquals) where
  perm := List.mergeSort_perm given precedesOrEquals
  ascending :=
    (List.pairwise_mergeSort precedesOrEquals_trans precedesOrEquals_total given).imp
      fun before => of_decide_eq_true before
  stable order := by
    -- Those of one order are sorted among themselves, so merging keeps them as a sublist.
    have kept : (ofOrder order given).Sublist (given.mergeSort precedesOrEquals) := by
      apply List.sublist_mergeSort precedesOrEquals_trans precedesOrEquals_total _
        List.filter_sublist
      apply List.pairwise_of_forall_mem_list
      intro first member second otherMember
      have isOrder := of_decide_eq_true (List.mem_filter.mp member).2
      have isOtherOrder := of_decide_eq_true (List.mem_filter.mp otherMember).2
      simp only [precedesOrEquals, decide_eq_true_eq]
      omega
    have inside : (ofOrder order given).Sublist
        (ofOrder order (given.mergeSort precedesOrEquals)) := by
      have filtered := kept.filter fun repository => decide (repository.order = order)
      simpa only [ofOrder, List.filter_filter, Bool.and_self] using filtered
    have sameLength : (ofOrder order given).length =
        (ofOrder order (given.mergeSort precedesOrEquals)).length :=
      ((List.mergeSort_perm given precedesOrEquals).filter _).length_eq.symm
    exact (inside.eq_of_length sameLength).symm

/-! ### Composites -/

theorem order_composite (failOnError : Bool) (nonempty : repositories ≠ []) :
    ∃ least ∈ repositories, (composite failOnError repositories).order = least.order ∧
      ∀ repository ∈ repositories, least.order ≤ repository.order := by
  have isSorted := isStableSort_consulted repositories
  cases consults : consulted repositories with
  | nil =>
      rw [consults] at isSorted
      exact absurd isSorted.perm.nil_eq.symm nonempty
  | cons least rest =>
      rw [consults] at isSorted
      refine ⟨least, isSorted.perm.mem_iff.mp List.mem_cons_self, ?_, ?_⟩
      · simp [composite, consults]
      · intro repository member
        rcases List.mem_cons.mp (isSorted.perm.mem_iff.mpr member) with rfl | later
        · exact Int.le_refl _
        · exact (List.pairwise_cons.mp isSorted.ascending).1 repository later

theorem consulted_of_perm {other : List (Repository σ)} (permuted : other.Perm repositories)
    (distinct : (repositories.map Repository.order).Nodup) :
    consulted other = consulted repositories := by
  have isSorted := isStableSort_consulted repositories
  have isOther := isStableSort_consulted other
  apply List.Perm.eq_of_pairwise _ isOther.ascending isSorted.ascending
    (isOther.perm.trans (permuted.trans isSorted.perm.symm))
  intro first second member otherMember before behind
  apply List.inj_on_of_nodup_map distinct
  · exact permuted.mem_iff.mp (isOther.perm.mem_iff.mp member)
  · exact isSorted.perm.mem_iff.mp otherMember
  · exact Int.le_antisymm before behind

variable (repositories added) in
/-- An addition sorts what is there and the repository behind it. -/
theorem consulted_append_eq_mergeSort :
    consulted (repositories ++ [added]) =
      (consulted repositories ++ [added]).mergeSort precedesOrEquals := by
  -- What is there is sorted already, so it is a stable sort of itself.
  have sortedAlready : IsStableSort (consulted repositories) (consulted repositories) :=
    ⟨.refl _, (isStableSort_consulted repositories).ascending, fun _ => rfl⟩
  rw [consulted_append_singleton]
  exact (sortedAlready.insert added).unique (isStableSort_mergeSort _)

end RemoteConfig.Repository
