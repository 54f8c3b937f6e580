import RemoteConfig.Environment.Basic
import RemoteConfig.Error
import RemoteConfig.Text.Split

/-!
Contract: repositories, which serve environments.

Owns:
- what is asked of a repository, and what a lookup yields;
- repositories with their name and order, over anything that they remember between lookups.

Does not own: where the properties of an environment come from.
-/

namespace RemoteConfig

/-- What is asked of a repository: applications and profiles are comma-delimited lists. -/
structure RepositoryQuery where
  application : String
  profile : String
  label : Option String
deriving DecidableEq, Repr

/-- What a lookup yields: its answer, what was reported on the way, and what is remembered after it. -/
structure Lookup (σ : Type) where
  outcome : Except ConfigError Environment
  logs : List LogLine
  memory : σ

/-- A source of environments. Repositories of lower order have higher precedence. -/
structure Repository (σ : Type) where
  name : String
  order : Int
  find : RepositoryQuery → σ → Lookup σ

namespace Repository

/-- The order of a repository for which none is given, which is the greatest one. -/
def defaultOrder : Int := Number.greatest32

end Repository

namespace RepositoryQuery

/-- The environment that answers a query as long as nothing was found. -/
def emptyAnswer (query : RepositoryQuery) (label : Option String) : Environment :=
  Environment.empty query.application (Text.splitList query.profile) label

end RepositoryQuery

end RemoteConfig
