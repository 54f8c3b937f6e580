import RemoteConfig.Client.Fetch
import RemoteConfig.Http.Exchange

/-!
Contract: the transport of a config client over connections.

Owns:
- the requests of a client as requests over a connection;
- answers as replies, and the failures of connections.

Does not own: the walk over several servers.
-/

namespace RemoteConfig

namespace ConfigRequest

/-- The request over a connection. -/
def toHttp (request : ConfigRequest) : HttpRequest :=
  ⟨request.url, request.headers, none⟩

end ConfigRequest

namespace HttpServer

def transport (server : HttpServer) : Transport := fun history =>
  match history.getLast? with
  | none => .error .requestFailed
  | some request =>
    match server.answer? (history.dropLast.map ConfigRequest.toHttp) request.toHttp with
    | none => .error .requestFailed
    | some response =>
      match response.text? with
      | none => .error .bodyUnreadable
      | some body => .ok ⟨response.status, response.contentType, body⟩

end HttpServer

end RemoteConfig
