import RemoteConfig.Http.Exchange
import RemoteConfig.Json.Writer
import RemoteConfig.Vault.Loading
import RemoteConfig.Vault.Operations
import RemoteConfig.Vault.TrustStore

/-!
Contract: calls to a Vault and to other services over connections.

Owns:
- building a client out of settings, and the checks on the way;
- the request of each call, and what its answer means.

Does not own: connections.
-/

namespace RemoteConfig

/-- A client: the address of the Vault, and the namespace in it. -/
structure VaultClient where
  base : Url
  namespaceName : Option String
deriving DecidableEq, Repr

namespace VaultClient

/-- The client of some settings, and what is reported while it is built. -/
def ofSettings (settings : VaultSettings) (files : FileSystem) :
    Except ConfigError VaultClient × List LogLine :=
  let (checked, reports) := settings.tls.check files
  match checked with
  | .error fault => (.error (.settings (.vault fault)), reports)
  | .ok () =>
    let warning := if settings.skipsValidation then
        [LogLine.warn "TLS certificate validation is disabled for Vault" []]
      else []
    (settings.baseUrl.map fun base => ⟨base, settings.namespaceName⟩, reports ++ warning)

def pathUrl (client : VaultClient) (path : String) : Except ConfigError Url :=
  let relative := String.ofList (path.toList.dropWhile (· == '/'))
  match client.base.joinPath ("v1/" ++ relative) with
  | .ok url => .ok url
  | .error error => .error (.vault (.invalidPath path error.message))

def headers (client : VaultClient) (token : Option String) : List (String × String) :=
  (token.map fun token => ("X-Vault-Token", token)).toList
    ++ (client.namespaceName.map fun name => ("X-Vault-Namespace", name)).toList

def readRequest (client : VaultClient) (path token : String) : Except ConfigError HttpRequest :=
  (client.pathUrl path).map fun url => ⟨url, client.headers (some token), none⟩

def loginRequest (client : VaultClient) (path : String) (body : Json) (token : Option String) :
    Except ConfigError HttpRequest :=
  (client.pathUrl path).map fun url =>
    ⟨url, ("Content-Type", "application/json") :: client.headers token, some body.compact⟩

/-- The request to another service, when it has a locator. -/
def fetchRequest? (request : ExternalRequest) : Option HttpRequest :=
  match Url.parse request.url with
  | .ok url => some ⟨url, request.headers, request.body⟩
  | .error _ => none

def request? (client : VaultClient) : VaultCall → Option HttpRequest
  | .read path token => (client.readRequest path token).toOption
  | .login path body token => (client.loginRequest path body token).toOption
  | .fetch request => fetchRequest? request

/-- The secret in an answer. -/
def secretOf (path : String) (response : HttpResponse) : Except VaultFault (Option Json) :=
  if response.status = 404 then .ok none
  else if !Status.isSuccess response.status then .error (.readStatus path response.status)
  else
    match response.document? with
    | some document => .ok (document.get? "data")
    | none => .error (.readMalformed path)

/-- The token in an answer. -/
def tokenOf (path : String) (response : HttpResponse) : Except VaultFault String :=
  if !Status.isSuccess response.status then .error (.loginStatus path response.status)
  else
    match response.document? with
    | none => .error (.loginMalformed path)
    | some document =>
      match (document.follow? ["auth", "client_token"]).bind Json.asString? with
      | some token => .ok token
      | none => .error (.loginWithoutToken path)

/-- The text in an answer. -/
def textOf (locator : String) (response : HttpResponse) : Except VaultFault String :=
  if !Status.isSuccess response.status then .error (.fetchStatus locator response.status)
  else
    match response.text? with
    | some text => .ok text
    | none => .error (.fetchBody locator)

/-- Sends a request and reads its answer. -/
def exchange {α : Type} (server : HttpServer) (history : List HttpRequest) (request : HttpRequest)
    (failure : VaultFault) (read : HttpResponse → Except VaultFault α) : Except ConfigError α :=
  match server.answer? history request with
  | none => .error (.vault failure)
  | some response => (read response).mapError .vault

/-- The operations of a client whose connections reach a server. -/
def operations (client : VaultClient) (server : HttpServer) : VaultOperations where
  read history path token :=
    (client.readRequest path token).bind fun request =>
      exchange server (history.filterMap client.request?) request (.readFailed path) (secretOf path)
  login history path body token :=
    (client.loginRequest path body token).bind fun request =>
      exchange server (history.filterMap client.request?) request (.loginFailed path) (tokenOf path)
  fetch history request :=
    match fetchRequest? request with
    | none => .error (.vault (.fetchFailed request.url))
    | some sent =>
      exchange server (history.filterMap client.request?) sent (.fetchFailed request.url)
        (textOf request.url)

end VaultClient

end RemoteConfig
