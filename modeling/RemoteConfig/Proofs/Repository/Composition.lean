import RemoteConfig.Proofs.Repository.Failures

/-!
Contract: a composite asks the repositories that were added to it along one order.

Owns:
- the first repository of some that fails, and the failure of a composite that it becomes;
- what a lookup of a composite is, told by the lookups along the order of consultation;
- `composite_byOrder`: that order is the stable sort of the additions, whose sequence makes no
  difference when all orders differ.

Does not own: which failures count.
-/

namespace RemoteConfig.Repository

open Lookup

variable {σ : Type}

/-! ### The failure of a composite -/

/-- A repository fails with a fault, and all those before it, which were asked first, have answered. -/
def FailsFirst (query : RepositoryQuery) (repositories : List (Repository σ)) (memory : σ)
    (repository : Repository σ) (fault : ConfigError) : Prop :=
  ∃ before behind, repositories = before ++ repository :: behind ∧
    (∀ lookup ∈ lookups query before memory, lookup.hasFailed = false) ∧
    (repository.find query (memoryAfter memory (lookups query before memory))).outcome = .error fault

section Failing

variable {query : RepositoryQuery} {repository first : Repository σ} {rest : List (Repository σ)}
  {memory : σ} {fault error : ConfigError}

variable (rest) in
theorem failsFirst_head (fails : (repository.find query memory).outcome = .error fault) :
    FailsFirst query (repository :: rest) memory repository fault :=
  ⟨[], rest, rfl, List.forall_mem_nil _, fails⟩

/-- In front of the repositories stands one that answers. -/
theorem FailsFirst.cons (answers : (first.find query memory).hasFailed = false)
    (fails : FailsFirst query rest (first.find query memory).memory repository fault) :
    FailsFirst query (first :: rest) memory repository fault := by
  obtain ⟨before, behind, rfl, answered, isFault⟩ := fails
  exact ⟨first :: before, behind, rfl, List.forall_mem_cons.mpr ⟨answers, answered⟩, isFault⟩

/-- Merging fails with the failure of the first repository that fails, under its name. -/
theorem exists_failsFirst_of_merge {repositories : List (Repository σ)} {environment : Environment}
    (fails : (merge true query repositories environment memory).outcome = .error error) :
    ∃ repository fault, FailsFirst query repositories memory repository fault ∧
      error = .load (.repository repository.name fault.message) := by
  induction repositories generalizing environment memory with
  | nil => cases fails
  | cons first rest inductionHypothesis =>
      cases found : (first.find query memory).outcome with
      | ok answer =>
          obtain ⟨logs, step⟩ := merge_of_answer true rest environment found
          rw [step] at fails
          obtain ⟨repository, fault, later, isError⟩ := inductionHypothesis fails
          exact ⟨repository, fault, later.cons (by simp [hasFailed, found]), isError⟩
      | error fault =>
          obtain ⟨logs, step⟩ := merge_of_fault true rest environment found
          rw [step, if_pos rfl] at fails
          cases fails
          exact ⟨first, fault, failsFirst_head rest found, rfl⟩

/-- A lookup of repositories fails with the failure of the first that fails: as it is for a single
repository, and under the name of the repository for several. -/
theorem exists_failsFirst_of_findMerged {failOnError : Bool} {repositories : List (Repository σ)}
    (nonempty : repositories ≠ [])
    (fails : (findMerged failOnError repositories query memory).outcome = .error error) :
    ∃ repository fault, FailsFirst query repositories memory repository fault ∧
      error = if repositories.length = 1 then fault
        else .load (.repository repository.name fault.message) := by
  match repositories with
  | [] => exact absurd rfl nonempty
  | [only] =>
      cases found : (only.find query memory).outcome with
      | ok answer => simp [findMerged, found, Except.map] at fails
      | error fault =>
          simp only [findMerged, found, Except.map] at fails
          cases fails
          exact ⟨only, _, failsFirst_head [] found, rfl⟩
  | first :: second :: others =>
      rw [findMerged_of_several failOnError query memory (by simp)] at fails
      cases failOnError with
      | true =>
          obtain ⟨repository, fault, isFirst, isError⟩ := exists_failsFirst_of_merge fails
          exact ⟨repository, fault, isFirst, isError⟩
      | false =>
          rw [merge_of_tolerated fun _ _ _ => rfl] at fails
          cases fails

end Failing

/-! ### Asking in order -/

/-- A lookup of a composite is made of the lookups of its repositories along the order in which they
are consulted, each with what the one before has left in memory. -/
structure AsksInOrder (failOnError : Bool) (repositories : List (Repository σ))
    (query : RepositoryQuery) (memory : σ) : Prop where
  /-- Those that are asked come first in that order: all of them, or where failures count, those up to
  the first that fails. -/
  asked : ((composite failOnError (repositories.map noting)).find query ([], memory)).memory.1 =
    (consulted repositories).take
      (made failOnError (lookups query (consulted repositories) memory)).length
  remembered : ((composite failOnError repositories).find query memory).memory =
    memoryAfter memory (made failOnError (lookups query (consulted repositories) memory))
  /-- There is an answer when all of them answer, or when there are several and failures do not
  count. -/
  succeeds : repositories ≠ [] →
    ((∃ environment, ((composite failOnError repositories).find query memory).outcome =
        .ok environment) ↔
      (failOnError = false ∧ 1 < repositories.length) ∨
        ∀ lookup ∈ lookups query (consulted repositories) memory, lookup.hasFailed = false)
  /-- The answer has the sources of their answers in that order. -/
  sources : ∀ environment,
    ((composite failOnError repositories).find query memory).outcome = .ok environment →
      environment.propertySources = (lookups query (consulted repositories) memory).flatMap sources
  /-- A failure is that of the first that fails in that order. -/
  failure : repositories ≠ [] → ∀ error,
    ((composite failOnError repositories).find query memory).outcome = .error error →
      ∃ repository fault, FailsFirst query (consulted repositories) memory repository fault ∧
        error = if repositories.length = 1 then fault
          else .load (.repository repository.name fault.message)

theorem asksInOrder (failOnError : Bool) (repositories : List (Repository σ))
    (query : RepositoryQuery) (memory : σ) : AsksInOrder failOnError repositories query memory where
  asked := asked_composite failOnError repositories query memory
  remembered := memory_findMerged failOnError query memory
  succeeds nonempty := by
    have succeeds := findMerged_succeeds_iff failOnError query memory (consulted_ne_nil nonempty)
    rwa [length_consulted] at succeeds
  sources _ succeeds := sources_findMerged failOnError query memory succeeds
  failure nonempty _ fails := by
    obtain ⟨repository, fault, isFirst, isError⟩ :=
      exists_failsFirst_of_findMerged (consulted_ne_nil nonempty) fails
    rw [length_consulted] at isError
    exact ⟨repository, fault, isFirst, isError⟩

/-- The repositories of a composite are consulted in the stable sort of the additions by order, to
which each addition sorts what is there; every lookup asks along it. The order of a composite is the
least one of its members; and when no two members share an order, the sequence of the additions makes
no difference to the composite, hence to its answers. -/
theorem composite_byOrder (repositories : List (Repository σ)) :
    IsStableSort repositories (consulted repositories) ∧
      (∀ sorted, IsStableSort repositories sorted → sorted = consulted repositories) ∧
      (∀ added, consulted (repositories ++ [added]) =
        (consulted repositories ++ [added]).mergeSort precedesOrEquals) ∧
      (∀ failOnError query memory, AsksInOrder failOnError repositories query memory) ∧
      (∀ failOnError, repositories ≠ [] →
        ∃ least ∈ repositories, (composite failOnError repositories).order = least.order ∧
          ∀ repository ∈ repositories, least.order ≤ repository.order) ∧
      ∀ other, other.Perm repositories → (repositories.map Repository.order).Nodup →
        ∀ failOnError, composite failOnError other = composite failOnError repositories := by
  have isSorted := isStableSort_consulted repositories
  refine ⟨isSorted, ?_, ?_, ?_, ?_, ?_⟩
  · intro sorted isOther
    exact isOther.unique isSorted
  · intro added
    exact consulted_append_eq_mergeSort added repositories
  · intro failOnError query memory
    exact asksInOrder failOnError repositories query memory
  · intro failOnError nonempty
    exact order_composite failOnError nonempty
  · intro other permuted distinct failOnError
    simp only [composite, consulted_of_perm permuted distinct]

/-- Of two repositories the one of lower order is asked first and gives the composite its order,
whichever of them was added first; a third one that shares an order comes behind the earlier one. -/
theorem composite_byOrder_placed :
    composite true [named "git" 10 false, named "vault" 1 false] =
        composite true [named "vault" 1 false, named "git" 10 false] ∧
      (composite true [named "git" 10 false, named "vault" 1 false]).order = 1 ∧
      (consulted ([named "git" 10 false, named "vault" 1 false] ++ [named "files" 10 false])).map
        Repository.name = ["vault", "git", "files"] ∧
      ((composite true ([named "vault" 1 false, named "git" 10 false].map noting)).find
        ⟨"app", "dev", none⟩ ([], ())).memory.1.map Repository.name = ["vault", "git"] ∧
      ∃ environment, ((composite true [named "git" 10 false, named "vault" 1 false]).find
          ⟨"app", "dev", none⟩ ()).outcome = .ok environment ∧
        environment.propertySources.map PropertySource.name = ["vault", "git"] := by
  obtain ⟨_, _, _, asks, least, anySequence⟩ :=
    composite_byOrder [named "vault" 1 false, named "git" 10 false]
  have same : composite true [named "git" 10 false, named "vault" 1 false] =
      composite true [named "vault" 1 false, named "git" 10 false] :=
    anySequence _ (.swap _ _ _) (by decide) true
  have lookup := asks true ⟨"app", "dev", none⟩ ()
  refine ⟨same, ?_, by decide, ?_, ?_⟩
  · obtain ⟨member, isMember, isOrder, below⟩ := least true (by simp)
    have atMost := below (named "vault" 1 false) (by simp)
    rw [same, isOrder]
    rcases List.mem_cons.mp isMember with rfl | other
    · rfl
    · rw [List.mem_singleton.mp other] at atMost
      exact absurd atMost (by decide)
  · rw [lookup.asked]
    decide
  · obtain ⟨environment, found⟩ := (lookup.succeeds (by simp)).mpr (.inr (by decide))
    rw [same]
    refine ⟨environment, found, ?_⟩
    rw [lookup.sources environment found]
    decide

end RemoteConfig.Repository
