import RemoteConfig.Json.Reader
import RemoteConfig.Vault.Operations

/-!
Contract: gathering what a login needs from services outside of the Vault.

Owns:
- gatherings, which may report, may fetch, and end with a value or a failure; the only way on from a
  fetch is its answer, so that a failing fetch ends the gathering;
- running a gathering, which yields what was fetched and reported on the way.

Does not own: what a login needs.
-/

namespace RemoteConfig

/-- Steps towards a value. -/
inductive Gathering (α : Type) where
  | done (outcome : Except ConfigError α)
  | report (line : LogLine) (next : Gathering α)
  | fetch (request : ExternalRequest) (next : String → Gathering α)

/-- What a run of a gathering did, and how it ended. -/
structure Gathered (α : Type) where
  requests : List ExternalRequest
  logs : List LogLine
  outcome : Except ConfigError α

namespace Gathering

variable {α β : Type}

/-- Goes on with the value of a gathering. -/
def bind : Gathering α → (α → Gathering β) → Gathering β
  | done (.ok value), next => next value
  | done (.error error), _ => done (.error error)
  | report line rest, next => report line (bind rest next)
  | fetch request rest, next => fetch request fun answer => bind (rest answer) next

instance : Monad Gathering where
  pure value := done (.ok value)
  bind := bind

/-- A value that may be missing for a reason. -/
def ofExcept (outcome : Except ConfigError α) : Gathering α :=
  done outcome

/-- Fetches a text. -/
def ask (request : ExternalRequest) : Gathering String :=
  fetch request fun answer => done (.ok answer)

/-- Reports something. -/
def tell (line : LogLine) : Gathering Unit :=
  report line (done (.ok ()))

def run (operations : VaultOperations) (history : List VaultCall) : Gathering α → Gathered α
  | done outcome => ⟨[], [], outcome⟩
  | report line next =>
    let rest := run operations history next
    { rest with logs := line :: rest.logs }
  | fetch request next =>
    match operations.fetch history request with
    | .error error => ⟨[request], [], .error error⟩
    | .ok answer =>
      let rest := run operations (history ++ [.fetch request]) (next answer)
      { rest with requests := request :: rest.requests }

def document (service : IdentityService) (answer : String) : Gathering Json :=
  match Json.parse? answer with
  | some found => pure found
  | none => done (.error (.vault (.malformedAnswer service)))

/-- A text out of the document that a service answered with. -/
def textField (service : IdentityService) (field : String) (answer : String) : Gathering String := do
  let found ← document service answer
  match (found.get? field).bind Json.asString? with
  | some text => pure text
  | none => done (.error (.vault (.fieldMissing service field)))

end Gathering

end RemoteConfig
