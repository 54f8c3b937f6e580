import RemoteConfig.Proofs.Outcome
import RemoteConfig.Proofs.Repository.ConsultationOrder

/-!
Contract: what a composite makes of the failures of its repositories.

Owns:
- the lookups of several repositories one after the other, and those among them that a composite
  makes: all of them, or up to the first that fails;
- repositories that note when they are asked;
- `composite_failurePolicy`: when a composite fails, which sources it serves, and whom it asks.

Does not own: the order in which repositories are consulted.
-/

namespace RemoteConfig

variable {σ : Type}

namespace Lookup

def hasFailed (lookup : Lookup σ) : Bool :=
  match lookup.outcome with
  | .ok _ => false
  | .error _ => true

/-- The sources of an answer; a failure has none. -/
def sources (lookup : Lookup σ) : List PropertySource :=
  match lookup.outcome with
  | .ok answer => answer.propertySources
  | .error _ => []

/-- The lookups up to the first that fails. -/
def untilFailure : List (Lookup σ) → List (Lookup σ)
  | [] => []
  | lookup :: rest => if lookup.hasFailed then [lookup] else lookup :: untilFailure rest

/-- The lookups that are made when failures end them, or when they do not. -/
def made (failOnError : Bool) (lookups : List (Lookup σ)) : List (Lookup σ) :=
  if failOnError then untilFailure lookups else lookups

/-- What is remembered after some lookups. -/
def memoryAfter (memory : σ) : List (Lookup σ) → σ
  | [] => memory
  | lookup :: rest => memoryAfter lookup.memory rest

end Lookup

namespace Repository

open Lookup

/-- The lookups of repositories one after the other, as if no failure ended them. -/
def lookups (query : RepositoryQuery) : List (Repository σ) → σ → List (Lookup σ)
  | [], _ => []
  | repository :: rest, memory =>
    repository.find query memory :: lookups query rest (repository.find query memory).memory

/-! ### Merging -/

section Merging

variable {failOnError : Bool} {query : RepositoryQuery} {repository : Repository σ}
  {rest : List (Repository σ)} {environment : Environment} {memory : σ}

variable (failOnError rest environment) in
/-- Behind an answer merging goes on with its sources added. -/
theorem merge_of_answer {answer : Environment}
    (answered : (repository.find query memory).outcome = .ok answer) :
    ∃ logs, merge failOnError query (repository :: rest) environment memory =
      { merge failOnError query rest (environment.addAll answer.propertySources)
          (repository.find query memory).memory with logs := logs } := by
  rw [merge]
  simp only
  split
  · rename_i other isOther
    rw [answered] at isOther
    cases isOther
    exact ⟨_, rfl⟩
  · rename_i isError
    rw [answered] at isError
    cases isError

variable (failOnError rest environment) in
/-- A failure ends merging, or merging goes on as if nothing had been found. -/
theorem merge_of_fault {fault : ConfigError}
    (fails : (repository.find query memory).outcome = .error fault) :
    ∃ logs, merge failOnError query (repository :: rest) environment memory =
      if failOnError then
        ⟨.error (.load (.repository repository.name fault.message)), logs,
          (repository.find query memory).memory⟩
      else
        { merge failOnError query rest environment (repository.find query memory).memory with
          logs := logs } := by
  rw [merge]
  simp only
  split
  · rename_i isAnswer
    rw [fails] at isAnswer
    cases isAnswer
  · rename_i other isOther
    rw [fails] at isOther
    cases isOther
    cases failOnError <;> exact ⟨_, rfl⟩

/-- Where failures do not count or do not occur, merging succeeds with the sources of all answers
behind those already there. -/
theorem merge_of_tolerated {repositories : List (Repository σ)}
    (tolerated : ∀ lookup ∈ lookups query repositories memory, lookup.hasFailed = true →
      failOnError = false) :
    (merge failOnError query repositories environment memory).outcome =
      .ok (environment.addAll ((lookups query repositories memory).flatMap sources)) := by
  induction repositories generalizing environment memory with
  | nil => simp [merge, lookups, Environment.addAll]
  | cons repository rest inductionHypothesis =>
      obtain ⟨first, others⟩ := List.forall_mem_cons.mp tolerated
      cases found : (repository.find query memory).outcome with
      | ok answer =>
          obtain ⟨logs, step⟩ := merge_of_answer failOnError rest environment found
          rw [step]
          simp [lookups, sources, found, inductionHypothesis others, Environment.addAll]
      | error fault =>
          have passesOver : failOnError = false := first (by simp [hasFailed, found])
          obtain ⟨logs, step⟩ := merge_of_fault failOnError rest environment found
          rw [step, if_neg (by simp [passesOver])]
          simp [lookups, sources, found, inductionHypothesis others]

variable (environment) in
/-- Where failures count, merging fails as soon as a lookup does. -/
theorem merge_of_failure {repositories : List (Repository σ)}
    (failure : ∃ lookup ∈ lookups query repositories memory, lookup.hasFailed = true) :
    ∃ error, (merge true query repositories environment memory).outcome = .error error := by
  induction repositories generalizing environment memory with
  | nil => simp [lookups] at failure
  | cons repository rest inductionHypothesis =>
      cases found : (repository.find query memory).outcome with
      | ok answer =>
          have later : ∃ lookup ∈ lookups query rest (repository.find query memory).memory,
              lookup.hasFailed = true := by
            simpa [lookups, hasFailed, found] using failure
          obtain ⟨logs, step⟩ := merge_of_answer true rest environment found
          rw [step]
          exact inductionHypothesis _ later
      | error fault =>
          obtain ⟨logs, step⟩ := merge_of_fault true rest environment found
          rw [step, if_pos rfl]
          exact ⟨_, rfl⟩

/-- What merging remembers is what the last lookup that it makes has left. -/
theorem memory_merge (repositories : List (Repository σ)) :
    (merge failOnError query repositories environment memory).memory =
      memoryAfter memory (made failOnError (lookups query repositories memory)) := by
  induction repositories generalizing environment memory with
  | nil => cases failOnError <;> rfl
  | cons repository rest inductionHypothesis =>
      cases found : (repository.find query memory).outcome with
      | ok answer =>
          obtain ⟨logs, step⟩ := merge_of_answer failOnError rest environment found
          rw [step]
          cases failOnError <;>
            simp [inductionHypothesis, lookups, made, untilFailure, hasFailed, found, memoryAfter]
      | error fault =>
          obtain ⟨logs, step⟩ := merge_of_fault failOnError rest environment found
          rw [step]
          cases failOnError <;>
            simp [inductionHypothesis, lookups, made, untilFailure, hasFailed, found, memoryAfter]

end Merging

/-! ### One repository and several -/

section Composite

variable (failOnError : Bool) {repositories : List (Repository σ)} (query : RepositoryQuery)
  (memory : σ)

theorem findMerged_of_several (several : 1 < repositories.length) :
    findMerged failOnError repositories query memory =
      merge failOnError query repositories (query.emptyAnswer query.label) memory := by
  match repositories with
  | [] | [_] => simp at several
  | _ :: _ :: _ => rfl

/-- Several repositories together fail when failures count and one of them fails; a single one fails
whether failures count or not. -/
theorem findMerged_succeeds_iff (nonempty : repositories ≠ []) :
    (∃ environment, (findMerged failOnError repositories query memory).outcome = .ok environment) ↔
      (failOnError = false ∧ 1 < repositories.length) ∨
        ∀ lookup ∈ lookups query repositories memory, lookup.hasFailed = false := by
  match repositories with
  | [] => exact absurd rfl nonempty
  | [only] =>
      simp only [findMerged, lookups, List.length_singleton, Nat.lt_irrefl, and_false, false_or,
        List.forall_mem_singleton, hasFailed]
      cases (only.find query memory).outcome <;> simp [Except.map]
  | first :: second :: rest =>
      rw [findMerged_of_several failOnError query memory (by simp)]
      constructor
      · rintro ⟨environment, succeeds⟩
        by_cases failure : ∃ lookup ∈ lookups query (first :: second :: rest) memory,
            lookup.hasFailed = true
        · cases failOnError with
          | false => exact .inl ⟨rfl, by simp⟩
          | true =>
              obtain ⟨error, fails⟩ :=
                merge_of_failure (query.emptyAnswer query.label) failure
              rw [succeeds] at fails
              cases fails
        · right
          intro lookup member
          simpa using fun failed => failure ⟨lookup, member, failed⟩
      · intro tolerated
        refine ⟨_, merge_of_tolerated fun lookup member failed => ?_⟩
        rcases tolerated with ⟨passesOver, _⟩ | noFailure
        · exact passesOver
        · simp [noFailure lookup member] at failed

/-- What is served is what the repositories that succeeded have served, one after the other. -/
theorem sources_findMerged {environment : Environment}
    (succeeds : (findMerged failOnError repositories query memory).outcome = .ok environment) :
    environment.propertySources = (lookups query repositories memory).flatMap sources := by
  match repositories with
  | [] => cases succeeds
  | [only] =>
      obtain ⟨answer, answered, rfl⟩ := map_eq_ok succeeds
      simp [lookups, sources, answered, Environment.addAll, RepositoryQuery.emptyAnswer,
        Environment.empty]
  | first :: second :: rest =>
      rw [findMerged_of_several failOnError query memory (by simp)] at succeeds
      have tolerated : ∀ lookup ∈ lookups query (first :: second :: rest) memory,
          lookup.hasFailed = true → failOnError = false := by
        intro lookup member failed
        cases failOnError with
        | false => rfl
        | true =>
            obtain ⟨error, fails⟩ :=
              merge_of_failure (query.emptyAnswer query.label) ⟨lookup, member, failed⟩
            rw [succeeds] at fails
            cases fails
      rw [merge_of_tolerated tolerated] at succeeds
      cases succeeds
      simp [Environment.addAll, RepositoryQuery.emptyAnswer, Environment.empty]

theorem memory_findMerged :
    (findMerged failOnError repositories query memory).memory =
      memoryAfter memory (made failOnError (lookups query repositories memory)) := by
  match repositories with
  | [] => cases failOnError <;> rfl
  | [only] =>
      cases failOnError with
      | false => rfl
      | true =>
          have single : untilFailure [only.find query memory] = [only.find query memory] := by
            unfold untilFailure
            split <;> rfl
          simp only [findMerged, lookups, made, if_true, single]
          rfl
  | first :: second :: rest =>
      rw [findMerged_of_several failOnError query memory (by simp), memory_merge]

end Composite

/-! ### Whom a composite asks -/

/-- A repository that also notes that it is asked, behind those that were asked before. -/
def noting (repository : Repository σ) : Repository (List (Repository σ) × σ) where
  name := repository.name
  order := repository.order
  find query memory :=
    let found := repository.find query memory.2
    ⟨found.outcome, found.logs, (memory.1 ++ [repository], found.memory)⟩

theorem insertByOrder_noting (added : Repository σ) (repositories : List (Repository σ)) :
    insertByOrder added.noting (repositories.map noting) =
      (insertByOrder added repositories).map noting := by
  induction repositories with
  | nil => rfl
  | cons first rest inductionHypothesis =>
      simp only [List.map_cons, insertByOrder, inductionHypothesis]
      by_cases before : first.order ≤ added.order
      · rw [if_pos before, if_pos (show first.noting.order ≤ added.noting.order from before)]
        rfl
      · rw [if_neg before, if_neg (show ¬ first.noting.order ≤ added.noting.order from before)]
        rfl

/-- Noting changes nothing about the order in which repositories are consulted. -/
theorem consulted_noting (repositories : List (Repository σ)) :
    consulted (repositories.map noting) = (consulted repositories).map noting := by
  have fold (sorted : List (Repository σ)) :
      (repositories.map noting).foldl (fun sorted added => insertByOrder added sorted)
          (sorted.map noting) =
        (repositories.foldl (fun sorted added => insertByOrder added sorted) sorted).map noting := by
    induction repositories generalizing sorted with
    | nil => rfl
    | cons repository rest inductionHypothesis =>
        rw [List.map_cons, List.foldl_cons, List.foldl_cons, insertByOrder_noting,
          inductionHypothesis]
  exact fold []

/-- The repositories that note are those whose lookups are made, in their order. -/
theorem noted_memoryAfter (failOnError : Bool) (query : RepositoryQuery)
    (repositories before : List (Repository σ)) (memory : σ) :
    (memoryAfter (before, memory)
        (made failOnError (lookups query (repositories.map noting) (before, memory)))).1 =
      before ++ repositories.take (made failOnError (lookups query repositories memory)).length := by
  induction repositories generalizing before memory with
  | nil => cases failOnError <;> simp [lookups, made, untilFailure, memoryAfter]
  | cons repository rest inductionHypothesis =>
      have later := inductionHypothesis (before ++ [repository]) (repository.find query memory).memory
      have sameFailure : (repository.noting.find query (before, memory)).hasFailed =
          (repository.find query memory).hasFailed := rfl
      have noted : (repository.noting.find query (before, memory)).memory =
          (before ++ [repository], (repository.find query memory).memory) := rfl
      cases failOnError with
      | false => simpa [lookups, made, memoryAfter, noted] using later
      | true =>
          cases failed : (repository.find query memory).hasFailed with
          | false =>
              simpa [lookups, made, untilFailure, memoryAfter, noted, sameFailure, failed] using later
          | true => simp [lookups, made, untilFailure, memoryAfter, noted, sameFailure, failed]

theorem length_consulted (repositories : List (Repository σ)) :
    (consulted repositories).length = repositories.length :=
  (isStableSort_consulted repositories).perm.length_eq

theorem consulted_ne_nil {repositories : List (Repository σ)} (nonempty : repositories ≠ []) :
    consulted repositories ≠ [] := by
  rw [← List.length_pos_iff, length_consulted]
  exact List.length_pos_iff.mpr nonempty

/-- A composite asks the first repositories in the order in which they are consulted: all of them, or up
to the first that fails where failures count. -/
theorem asked_composite (failOnError : Bool) (repositories : List (Repository σ))
    (query : RepositoryQuery) (memory : σ) :
    ((composite failOnError (repositories.map noting)).find query ([], memory)).memory.1 =
      (consulted repositories).take
        (made failOnError (lookups query (consulted repositories) memory)).length := by
  have noted := noted_memoryAfter failOnError query (consulted repositories) [] memory
  rw [List.nil_append, ← consulted_noting] at noted
  rw [← noted]
  exact congrArg Prod.fst (memory_findMerged failOnError query ([], memory))

/-! ### The policy -/

/-- When failures do not count, a composite fails only if it has a single repository, and that one
fails. When they count, it fails exactly if a lookup does. Either way an answer has the sources of the
repositories that succeeded, in the order in which they are consulted; and where failures count, no
repository behind the first that fails is asked. -/
theorem composite_failurePolicy {repositories : List (Repository σ)} (nonempty : repositories ≠ [])
    (query : RepositoryQuery) (memory : σ) :
    ((∃ environment, ((composite false repositories).find query memory).outcome = .ok environment) ↔
        1 < repositories.length ∨
          ∀ lookup ∈ lookups query (consulted repositories) memory, lookup.hasFailed = false) ∧
      ((∃ error, ((composite true repositories).find query memory).outcome = .error error) ↔
        ∃ lookup ∈ lookups query (consulted repositories) memory, lookup.hasFailed = true) ∧
      (∀ failOnError environment,
        ((composite failOnError repositories).find query memory).outcome = .ok environment →
          environment.propertySources =
            (lookups query (consulted repositories) memory).flatMap sources) ∧
      ∀ failOnError,
        ((composite failOnError (repositories.map noting)).find query ([], memory)).memory.1 =
          (consulted repositories).take
            (made failOnError (lookups query (consulted repositories) memory)).length := by
  have askable := consulted_ne_nil nonempty
  refine ⟨?_, ?_, ?_, ?_⟩
  · have succeeds := findMerged_succeeds_iff false query memory askable
    rw [length_consulted] at succeeds
    simpa [composite] using succeeds
  · have succeeds := findMerged_succeeds_iff true query memory askable
    have fails : (∃ error, (findMerged true (consulted repositories) query memory).outcome =
          .error error) ↔
        ¬ ∃ environment, (findMerged true (consulted repositories) query memory).outcome =
          .ok environment := by
      cases (findMerged true (consulted repositories) query memory).outcome <;> simp
    simp only [composite, fails, succeeds]
    simp
  · intro failOnError environment succeeds
    exact sources_findMerged failOnError query memory succeeds
  · intro failOnError
    exact asked_composite failOnError repositories query memory

/-- A repository with one source of its own name, or one that always fails. -/
def named (name : String) (order : Int) (fails : Bool) : Repository Unit where
  name := name
  order := order
  find query memory :=
    let answer := (query.emptyAnswer query.label).add ⟨name, [("owner", .string name)]⟩
    ⟨if fails then .error (.other (name ++ " is down")) else .ok answer, [], memory⟩

/-- Three repositories of which the middle one fails. -/
def oneFailing : List (Repository Unit) :=
  [named "git" 10 false, named "vault" 1 true, named "files" 0 false]

/-- The middle one of three repositories is passed over, or ends the lookup before the last one. -/
theorem composite_failurePolicy_oneFailing :
    (∃ environment,
        ((composite false oneFailing).find ⟨"app", "dev", none⟩ ()).outcome = .ok environment ∧
          environment.propertySources.map PropertySource.name = ["files", "git"]) ∧
      (∃ error,
        ((composite true oneFailing).find ⟨"app", "dev", none⟩ ()).outcome = .error error) ∧
      (((composite true (oneFailing.map noting)).find ⟨"app", "dev", none⟩ ([], ())).memory.1.map
        Repository.name) = ["files", "vault"] := by
  have nonempty : oneFailing ≠ [] := by simp [oneFailing]
  obtain ⟨succeeds, fails, served, asked⟩ :=
    composite_failurePolicy nonempty ⟨"app", "dev", none⟩ ()
  refine ⟨?_, fails.mpr ?_, ?_⟩
  · obtain ⟨environment, found⟩ := succeeds.mpr (.inl (by decide))
    refine ⟨environment, found, ?_⟩
    rw [served false environment found]
    decide
  · decide
  · rw [asked true]
    decide

/-- A single repository that fails is not passed over: the composite fails with it, although failures
do not count. -/
theorem composite_failsWithSingle :
    ¬ ∃ environment, ((composite false [named "vault" 1 true]).find ⟨"app", "dev", none⟩ ()).outcome =
      .ok environment := by
  rintro ⟨environment, succeeds⟩
  cases succeeds

end Repository

end RemoteConfig
