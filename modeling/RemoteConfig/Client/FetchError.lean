import RemoteConfig.LogLine
import RemoteConfig.Text.Split
import RemoteConfig.Http.Header

/-!
Contract: the failure of one round trip to a config server.

Owns:
- the causes of such a failure, and their wording;
- which failures count as errors of the server;
- the body of an error that the server declares as a document.

Does not own: what a walk over several servers does about a failure.
-/

namespace RemoteConfig

/-- Settings of a client that contradict each other, or lack a server. -/
inductive ClientFault where
  | noServerAt (index count : Nat)
  | noInstanceAt (index : Nat)
  | passwordAndAuthorization
  | invalidHeaderName (name : String)
  | invalidHeaderValue (name : String)
  | other (text : String)
deriving DecidableEq, Repr

/-- Why a server was never heard from. -/
inductive TransportFailure where
  | requestFailed
  | bodyUnreadable
  | other (text : String)
deriving DecidableEq, Repr

/-- The failure of one round trip. -/
inductive FetchError where
  | notFound (uri : String)
  | serverError (uri : String) (status : Nat) (contentType : Option String) (body : String)
  | transport (uri : String) (failure : TransportFailure)
  | malformedResponse (uri : String)
  | invalidUri (uri reason : String)
  | configuration (fault : ClientFault)
deriving DecidableEq, Repr

namespace ClientFault

/-- The wording of a fault. -/
def message : ClientFault → String
  | noServerAt index count =>
    "no config server URI at index " ++ toString index ++ " (" ++ toString count ++ " configured)"
  | noInstanceAt index => "no discovered instance at index " ++ toString index
  | passwordAndAuthorization => "You must set either 'password' or 'authorization'"
  | invalidHeaderName name => "Invalid header name '" ++ name ++ "': invalid HTTP header name"
  | invalidHeaderValue name =>
    "Invalid value for header '" ++ name ++ "': failed to parse header value"
  | other text => text

end ClientFault

namespace TransportFailure

/-- The wording of a failure. -/
def message : TransportFailure → String
  | requestFailed => "HTTP request failed: " ++ withheldReason
  | bodyUnreadable => "Failed to read response body: " ++ withheldReason
  | other text => text

end TransportFailure

namespace FetchError

/-- The wording of an error. -/
def message : FetchError → String
  | notFound uri => "No environment found at " ++ uri
  | serverError uri status _ _ =>
    "Config server at " ++ uri ++ " responded with status " ++ toString status
  | transport uri failure => "Connection to " ++ uri ++ " failed: " ++ failure.message
  | malformedResponse uri => "Malformed environment from " ++ uri ++ ": " ++ withheldReason
  | invalidUri uri reason => "Invalid config server URI '" ++ uri ++ "': " ++ reason
  | configuration fault => "Invalid client configuration: " ++ fault.message

/-- An answer of an unexpected status or shape is an error of the server. -/
def isServerError : FetchError → Bool
  | serverError .. => true
  | malformedResponse _ => true
  | _ => false

/-- Does a content type declare a document, whatever its parameters? -/
def declaresDocument (contentType : String) : Bool :=
  match Text.splitAt ';' contentType with
  | essence :: _ => Text.sameLetters (Text.trim essence) "application/json"
  | [] => false

/-- The body of an answer of status 500 to 599 that is declared as a document. -/
def documentBody? : FetchError → Option String
  | serverError _ status (some contentType) body =>
    if 500 ≤ status ∧ status < 600 ∧ declaresDocument contentType then some body else none
  | _ => none

end FetchError

end RemoteConfig
