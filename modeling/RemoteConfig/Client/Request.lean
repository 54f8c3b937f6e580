import RemoteConfig.Client.Credentials
import RemoteConfig.Environment.Label
import RemoteConfig.Text.Base64

/-!
Contract: the request for one environment to one server.

Owns:
- the locator of an environment: name, profiles and label as segments below the server's path;
- the headers of a request, checked before anything is sent;
- the rule that a password and a custom authorization exclude each other.

Does not own: sending the request.
-/

namespace RemoteConfig

/-- Which environment is asked for; an empty label leaves the choice to the server. -/
structure EnvironmentQuery where
  name : String
  profiles : String
  label : String
deriving DecidableEq, Repr

/-- A request: where it goes, and its headers in the order in which they are sent. -/
structure ConfigRequest where
  url : Url
  headers : List (String × String)
deriving DecidableEq, Repr

namespace ConfigRequest

/-- The value of a header; letter case of the name is ignored. -/
def header? (request : ConfigRequest) (name : String) : Option String :=
  Header.find? name request.headers

def tokenHeader : String := "X-Config-Token"

def stateHeader : String := "X-Config-State"

def authorizationHeader : String := "Authorization"

/-- The locator of an environment below the locator of a server. -/
def environmentUrl (base : Url) (query : EnvironmentQuery) : Except FetchError Url :=
  let label := if Text.hasText query.label then [Label.toWire query.label] else []
  match base.extend? ([query.name, query.profiles] ++ label) with
  | some url => .ok url
  | none => .error (.invalidUri base.text "URI cannot be used as a base")

/-- A header that may not be sent is a fault of the settings. -/
def checkHeader (header : String × String) : Except FetchError Unit :=
  if !Header.isValidName header.1 then .error (.configuration (.invalidHeaderName header.1))
  else if !Header.isValidValue header.2 then .error (.configuration (.invalidHeaderValue header.1))
  else .ok ()

/-- The headers that do not come from the custom ones. -/
def builtInHeaders (settings : ClientSettings) (state : Option String) : List (String × String) :=
  let token := (Text.nonBlank settings.token).toList.map fun value => (tokenHeader, value)
  let state := if settings.sendState then
      (Text.nonBlank state).toList.map fun value => (stateHeader, value)
    else []
  [("Accept", settings.mediaType), ("Accept-Charset", settings.charset)] ++ token ++ state

/-- Is the header the one for authorization, under any letter case? -/
def isAuthorization (header : String × String) : Bool :=
  Text.sameLetters header.1 authorizationHeader

/-- Sorted headers stand by name, and under one name by value. -/
def standsBefore (first second : String × String) : Bool :=
  first.1 < second.1 || (first.1 == second.1 && first.2 ≤ second.2)

/-- Puts a header into sorted ones. -/
def insertHeader (added : String × String) : List (String × String) → List (String × String)
  | [] => [added]
  | first :: rest =>
    if standsBefore added first then added :: first :: rest else first :: insertHeader added rest

/-- The custom headers as they are sent, in whatever order the settings hold them. -/
def customHeaders (settings : ClientSettings) : List (String × String) :=
  settings.headers.foldr insertHeader []

theorem perm_insertHeader (added : String × String) (headers : List (String × String)) :
    (insertHeader added headers).Perm (added :: headers) := by
  induction headers with
  | nil => exact .refl _
  | cons first rest inductionHypothesis =>
    unfold insertHeader
    split
    · exact .refl _
    · exact (inductionHypothesis.cons first).trans (.swap added first rest)

theorem perm_customHeaders (settings : ClientSettings) :
    (customHeaders settings).Perm settings.headers := by
  unfold customHeaders
  induction settings.headers with
  | nil => exact .refl _
  | cons header rest inductionHypothesis =>
    exact (perm_insertHeader header _).trans (inductionHypothesis.cons header)

theorem mem_customHeaders {settings : ClientSettings} {header : String × String} :
    header ∈ customHeaders settings ↔ header ∈ settings.headers :=
  (perm_customHeaders settings).mem_iff

/-- The headers that the requests to all servers share; all custom ones are checked, and those for
authorization are left out. -/
def sharedHeaders (settings : ClientSettings) (state : Option String) :
    Except FetchError (List (String × String)) := do
  let builtIn := builtInHeaders settings state
  let custom := customHeaders settings
  (builtIn ++ custom).forM checkHeader
  pure (builtIn ++ custom.filter fun header => !isAuthorization header)

/-- The custom authorization; of several spellings of its name the first one held counts. -/
def customAuthorization? (settings : ClientSettings) : Option String :=
  (settings.headers.find? isAuthorization).map Prod.snd

/-- A password makes the authorization from user and password; without one the custom
authorization is sent as it stands. -/
def authorization (settings : ClientSettings) (credentials : Credentials) :
    Except FetchError (Option String) :=
  match credentials.password, customAuthorization? settings with
  | some _, some _ => .error (.configuration .passwordAndAuthorization)
  | some password, none =>
    let pair := credentials.username.getD "" ++ ":" ++ password
    .ok (some ("Basic " ++ Base64.encodeText Base64.standard pair))
  | none, custom => .ok custom

/-- The request to the server with the given credentials. -/
def build (settings : ClientSettings) (shared : List (String × String)) (credentials : Credentials)
    (query : EnvironmentQuery) : Except FetchError ConfigRequest := do
  let url ← environmentUrl credentials.uri query
  let authorization ← authorization settings credentials
  pure ⟨url, shared ++ authorization.toList.map fun value => (authorizationHeader, value)⟩

end ConfigRequest

end RemoteConfig
