import RemoteConfig.Error
import RemoteConfig.Json.Basic

/-!
Contract: what is asked of a Vault and of the services around it.

Owns:
- requests to services outside of the Vault;
- the three kinds of calls, and answers to them that may depend on all earlier calls.

Does not own: how calls travel.
-/

namespace RemoteConfig

/-- A request to a service outside of the Vault; one with a body is a `POST`. -/
structure ExternalRequest where
  url : String
  headers : List (String × String)
  body : Option String
deriving DecidableEq, Repr

namespace ExternalRequest

/-- A request without a body. -/
def get (url : String) (headers : List (String × String)) : ExternalRequest :=
  ⟨url, headers, none⟩

def post (url body : String) (headers : List (String × String)) : ExternalRequest :=
  ⟨url, headers, some body⟩

end ExternalRequest

/-- A call: reading a secret with a token, logging in, or fetching from another service. -/
inductive VaultCall where
  | read (path token : String)
  | login (path : String) (body : Json) (token : Option String)
  | fetch (request : ExternalRequest)

/-- The answers to calls, given the history of the calls before them. A read answers with the secret
when there is one, a login with the token that it issues, and a fetch with a text. -/
structure VaultOperations where
  read : List VaultCall → String → String → Except ConfigError (Option Json)
  login : List VaultCall → String → Json → Option String → Except ConfigError String
  fetch : List VaultCall → ExternalRequest → Except ConfigError String

end RemoteConfig
