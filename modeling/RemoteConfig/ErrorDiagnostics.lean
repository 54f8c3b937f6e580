import RemoteConfig.Error
import RemoteConfig.Text.Diagnostic
import RemoteConfig.Text.Search

/-!
Contract: errors as diagnostic texts.

Owns:
- the kind of an error and its parts, where a message would only tell what they mean;
- leaving out what stands behind an explanation that is withheld.

Does not own: the wording of errors.
-/

namespace RemoteConfig

/-- Why a server was never heard from, given the locator of the request. -/
def TransportFailure.describe (uri : String) : TransportFailure → String
  | requestFailed => "HTTP request failed: error sending request for url (" ++ uri ++ ")"
  | bodyUnreadable => "Failed to read response body: error decoding response body"
  | other text => text

/-- The diagnostic text of the failure of a round trip. -/
def FetchError.describe : FetchError → String
  | notFound uri => Diagnostic.record "NotFound" [("uri", Diagnostic.quoted uri)]
  | serverError uri status contentType body =>
    Diagnostic.record "ServerError"
      [("uri", Diagnostic.quoted uri), ("status", toString status),
        ("content_type", Diagnostic.option Diagnostic.quoted contentType),
        ("body", Diagnostic.quoted body)]
  | transport uri failure =>
    Diagnostic.record "Transport"
      [("uri", Diagnostic.quoted uri), ("reason", Diagnostic.quoted (failure.describe uri))]
  | malformedResponse uri =>
    Diagnostic.record "MalformedResponse"
      [("uri", Diagnostic.quoted uri), ("reason", Diagnostic.quoted withheldReason)]
  | invalidUri uri reason =>
    Diagnostic.record "InvalidUri"
      [("uri", Diagnostic.quoted uri), ("reason", Diagnostic.quoted reason)]
  | configuration fault => Diagnostic.wrapped "Configuration" fault.message

def ConfigError.describe (error : ConfigError) : String :=
  match error with
  | load fault => Diagnostic.wrapped "LoadError" fault.message
  | shape fault => Diagnostic.wrapped "DeserializationError" fault.message
  | fetch cause => "Fetch(" ++ cause.describe ++ ")"
  | failFast _ _ cause =>
    Diagnostic.record "FailFast"
      [("message", Diagnostic.quoted error.message),
        ("cause", Diagnostic.option FetchError.describe cause)]
  | settings fault => Diagnostic.wrapped "InvalidConfiguration" fault.message
  | vault fault => Diagnostic.wrapped "Vault" fault.message
  | other text => Diagnostic.wrapped "Other" text

/-- A text up to the first explanation in it that is withheld. -/
def untilWithheld (text : String) : String :=
  match Text.cutAfter? withheldReason.toList text.toList with
  | some (before, _) => String.ofList before
  | none => text

end RemoteConfig
