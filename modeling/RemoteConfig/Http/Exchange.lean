import RemoteConfig.Http.Header
import RemoteConfig.Http.Status
import RemoteConfig.Json.Reader
import RemoteConfig.Text.Base64
import RemoteConfig.Text.Charset
import RemoteConfig.Text.Split
import RemoteConfig.Url.Parse

/-!
Contract: one request over a connection and what comes back.

Owns:
- requests as they are given, and as a server sees them;
- which requests can be sent at all;
- servers, which answer by the requests they have seen;
- the body of an answer as text or as a document.

Does not own: what requests are made for.
-/

namespace RemoteConfig

/-- A request as it is given; one with a body is a `POST`. -/
structure HttpRequest where
  url : Url
  headers : List (String × String)
  body : Option String
deriving DecidableEq, Repr

/-- A request as a server sees it; the names of headers are in lower case. -/
structure SeenRequest where
  method : String
  target : String
  headers : List (String × String)
  body : String
deriving DecidableEq, Repr

/-- What a server does with a request: it closes the connection, or answers; the body may end too
early. -/
inductive WireReply where
  | closed
  | answered (status : Nat) (contentType : Option String) (body : Bytes) (complete : Bool)
deriving DecidableEq, Repr

/-- A server: the locators that reach it, and its answer to the last of the requests it has seen. -/
structure HttpServer where
  reaches : Url → Bool
  reply : List SeenRequest → WireReply

/-- An answer; the body is absent when it could not be read to its end. -/
structure HttpResponse where
  status : Nat
  contentType : Option String
  body : Option Bytes
deriving DecidableEq, Repr

namespace HttpRequest

/-- User and password of a locator, without their escapes. A password that is no text is none, and a
user that is no text stays unread together with the password. -/
def userinfo? (url : Url) : Option (String × Option String) := do
  let username ← Utf8.decode? (Percent.decode url.username.toList)
  let password := url.password.bind fun written => Utf8.decode? (Percent.decode written.toList)
  if username.isEmpty && password.isNone then none else pure (username, password)

/-- The header that stands for user and password of the locator. -/
def userinfoHeaders (url : Url) : List (String × String) :=
  match userinfo? url with
  | some (username, password) =>
    [("authorization",
      "Basic " ++ Base64.encodeText Base64.standard (username ++ ":" ++ password.getD ""))]
  | none => []

/-- The value of a header as a server sees it, without blanks around it. -/
def seenValue (value : String) : String :=
  String.ofList (Text.trimBy (fun character => character == ' ' || character == '\t') value.toList)

/-- The request as a server sees it; nothing when it cannot be sent. -/
def seen? (request : HttpRequest) : Option SeenRequest :=
  if !(["http", "https"].contains request.url.scheme) || request.url.host.isNone then none
  else if !request.headers.all fun header =>
      Header.isValidName header.1 && Header.isValidValue header.2 then none
  else
    some
      { method := if request.body.isSome then "POST" else "GET"
        target := request.url.pathText ++ request.url.queryText
        headers := userinfoHeaders request.url
          ++ request.headers.map fun header => (Text.asciiLower header.1, seenValue header.2)
        body := request.body.getD "" }

/-- The request as a server sees it, when it can be sent and reaches the server. -/
def arriving? (server : HttpServer) (request : HttpRequest) : Option SeenRequest :=
  if server.reaches request.url then request.seen? else none

end HttpRequest

namespace HttpResponse

def parameters (contentType : String) : List (String × String) :=
  ((Text.splitAt ';' contentType).drop 1).filterMap fun part =>
    match Text.splitChars '=' (Text.trim part).toList with
    | name :: value :: _ =>
      let plain := Text.trimBy (· == '"') value
      some (Text.asciiLower (String.ofList name), String.ofList plain)
    | _ => none

/-- The label of the character set of an answer. -/
def charset (response : HttpResponse) : String :=
  match response.contentType with
  | some contentType =>
    if contentType.toList.contains '/' then ((parameters contentType).lookup "charset").getD "utf-8"
    else "utf-8"
  | none => "utf-8"

/-- The body as text. -/
def text? (response : HttpResponse) : Option String :=
  response.body.map (Charset.decode response.charset)

/-- The body as a document. -/
def document? (response : HttpResponse) : Option Json :=
  response.body.bind fun bytes => (Utf8.decode? bytes).bind Json.parse?

/-- The answer that a reply of a server is; a closed connection is none. -/
def ofReply? : WireReply → Option HttpResponse
  | .closed => none
  | .answered status contentType body complete =>
    if status < 100 || status > 999 then none
    else
      some
        { status := status
          contentType := contentType.filter Header.isReadableValue
          body := if Status.isBodiless status then some [] else if complete then some body else none }

end HttpResponse

namespace HttpServer

/-- The answer to a request after the requests of a history; nothing when it could not be sent or
was not answered. -/
def answer? (server : HttpServer) (history : List HttpRequest) (request : HttpRequest) :
    Option HttpResponse :=
  match request.arriving? server with
  | none => none
  | some seen =>
    HttpResponse.ofReply? (server.reply (history.filterMap (HttpRequest.arriving? server) ++ [seen]))

end HttpServer

end RemoteConfig
