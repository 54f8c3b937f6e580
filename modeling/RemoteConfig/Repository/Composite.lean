import RemoteConfig.Repository.Basic

/-!
Contract: several repositories as one.

Owns:
- the order in which repositories are consulted: ascending, and as added where orders are equal;
- merging their answers, and what becomes of the failure of one of them.

Does not own: the lookups of the single repositories.
-/

namespace RemoteConfig.Repository

variable {σ : Type}

/-- Adds a repository behind all those whose order is not greater than its own. -/
def insertByOrder (added : Repository σ) : List (Repository σ) → List (Repository σ)
  | [] => [added]
  | first :: rest =>
    if first.order ≤ added.order then first :: insertByOrder added rest else added :: first :: rest

/-- Repositories in the order in which they are consulted. -/
def consulted (repositories : List (Repository σ)) : List (Repository σ) :=
  repositories.foldl (fun sorted added => insertByOrder added sorted) []

/-- Asks one repository after the other and collects the sources of their answers. A failure ends the
lookup, or is reported and passed over. -/
def merge (failOnError : Bool) (query : RepositoryQuery) :
    List (Repository σ) → Environment → σ → Lookup σ
  | [], environment, memory => ⟨.ok environment, [], memory⟩
  | repository :: rest, environment, memory =>
    let found := repository.find query memory
    let goOn (environment : Environment) (report : LogLine) : Lookup σ :=
      let others := merge failOnError query rest environment found.memory
      { others with logs := found.logs ++ report :: others.logs }
    match found.outcome with
    | .ok answer =>
      goOn (environment.addAll answer.propertySources)
        (.debug "Merged repository"
          [("repository", repository.name), ("sources", toString answer.propertySources.length)])
    | .error error =>
      if failOnError then
        { found with outcome := .error (.load (.repository repository.name error.message)) }
      else
        goOn environment
          (.warn "Skipping failed repository"
            [("repository", repository.name), ("error", error.message)])

/-- The answer of a composite with the given repositories in the order in which they are consulted. A
single repository passes its version and state on. -/
def findMerged (failOnError : Bool) (repositories : List (Repository σ)) (query : RepositoryQuery)
    (memory : σ) : Lookup σ :=
  let environment := query.emptyAnswer query.label
  match repositories with
  | [] => ⟨.error (.settings .noRepositories), [], memory⟩
  | [only] =>
    let found := only.find query memory
    { found with
      outcome := found.outcome.map fun answer =>
        { environment.addAll answer.propertySources with
          version := answer.version
          state := answer.state } }
  | several => merge failOnError query several environment memory

/-- Several repositories as one. -/
def composite (failOnError : Bool) (repositories : List (Repository σ)) : Repository σ :=
  let repositories := consulted repositories
  { name := "composite[" ++ Text.join ", " (repositories.map Repository.name) ++ "]"
    order := (repositories.head?.map Repository.order).getD defaultOrder
    find := findMerged failOnError repositories }

end RemoteConfig.Repository
