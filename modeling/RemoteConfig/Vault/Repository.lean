import RemoteConfig.Environment.Flatten
import RemoteConfig.Login.Acquisition
import RemoteConfig.Repository.Basic
import RemoteConfig.Vault.Keys

/-!
Contract: the secrets of a Vault as a repository.

Owns:
- reading the secrets of a query one after the other, up to the first failure;
- the sources that they become;
- sessions, which keep the first token that was acquired.

Does not own: how a token is acquired.
-/

namespace RemoteConfig

/-- What is remembered between lookups: the token, once it has been acquired, and all calls so far. -/
structure VaultSession where
  token : Option String
  calls : List VaultCall

/-- A repository of secrets. -/
structure VaultRepository where
  settings : VaultSettings
  context : LoginContext
  operations : VaultOperations

/-- What reading some secrets did, and the sources that it found. -/
structure SecretsRead where
  calls : List VaultCall
  logs : List LogLine
  outcome : Except ConfigError (List PropertySource)

namespace VaultSession

/-- A session in which nothing has happened. -/
def start : VaultSession := ⟨none, []⟩

def after (session : VaultSession) (calls : List VaultCall) : VaultSession :=
  { session with calls := session.calls ++ calls }

end VaultSession

namespace VaultSettings

def repositoryName (settings : VaultSettings) : String :=
  "vault[" ++ settings.backend ++ "]"

def sourceName (key : String) : String :=
  "vault:" ++ key

/-- The properties of a secret. The second version of a backend wraps them once more, and only an
object has properties. -/
def properties (settings : VaultSettings) (secret : Json) : Json.Fields :=
  let unwrapped := if settings.kvVersion = 2 then (secret.get? "data").getD .null else secret
  match unwrapped with
  | .object fields => flatten (.object fields)
  | _ => []

/-- The source of a key with its report, when the secret has properties. -/
def sourceOf (settings : VaultSettings) (key path : String) (secret : Option Json) :
    List PropertySource × List LogLine :=
  let properties := (secret.map settings.properties).getD []
  if properties.isEmpty then ([], [])
  else
    ([⟨sourceName key, properties⟩],
      [.debug "Read Vault secret"
        [("path", path), ("properties", toString properties.length)]])

end VaultSettings

namespace VaultRepository

/-- Reads the secrets of some keys after the calls of a history. -/
def readKeys (repository : VaultRepository) (label : Option String) (token : String) :
    List String → List VaultCall → SecretsRead
  | [], _ => ⟨[], [], .ok []⟩
  | key :: rest, history =>
    let path := repository.settings.secretPath key label
    let call := VaultCall.read path token
    match repository.operations.read history path token with
    | .error error => ⟨[call], [], .error error⟩
    | .ok secret =>
      let (sources, reports) := repository.settings.sourceOf key path secret
      let others := readKeys repository label token rest (history ++ [call])
      ⟨call :: others.calls, reports ++ others.logs, others.outcome.map (sources ++ ·)⟩

/-- The profile of a query that names none. -/
def defaultProfile : String := "default"

def statedProfiles (query : RepositoryQuery) : List String :=
  match Text.splitList query.profile with
  | [] => [defaultProfile]
  | profiles => profiles

/-- The keys of a query. The default profile has no keys of its own. -/
def keys (repository : VaultRepository) (query : RepositoryQuery) : List String :=
  repository.settings.keys query.application
    ((Text.splitList query.profile).filter fun profile => profile != defaultProfile)

/-- Looks up an environment with a token of the caller. -/
def findForToken (repository : VaultRepository) (query : RepositoryQuery) (token : String)
    (session : VaultSession) : Lookup VaultSession :=
  let read := repository.readKeys query.label token (repository.keys query) session.calls
  let empty := Environment.empty query.application (statedProfiles query) query.label
  ⟨read.outcome.map empty.addAll, read.logs, session.after read.calls⟩

/-- Looks up an environment with the token of the session, which is acquired when there is none. -/
def find (repository : VaultRepository) (query : RepositoryQuery) (session : VaultSession) :
    Lookup VaultSession :=
  match session.token with
  | some token => repository.findForToken query token session
  | none =>
    let acquired :=
      repository.settings.acquireToken repository.context repository.operations session.calls
    let reached := session.after acquired.calls
    match acquired.outcome with
    | .error error => ⟨.error error, acquired.logs, reached⟩
    | .ok token =>
      let found := repository.findForToken query token { reached with token := some token }
      { found with logs := acquired.logs ++ found.logs }

/-- The repository over a memory that holds its session at some place. -/
def toRepository {σ : Type} (repository : VaultRepository) (get : σ → VaultSession)
    (put : VaultSession → σ → σ) : Repository σ where
  name := repository.settings.repositoryName
  order := repository.settings.order
  find query memory :=
    let found := repository.find query (get memory)
    ⟨found.outcome, found.logs, put found.memory memory⟩

end VaultRepository

end RemoteConfig
