import RemoteConfig.Client.Request
import RemoteConfig.Environment.Wire

/-!
Contract: fetching one environment from a list of servers.

Owns:
- transports, which answer each request by what has been requested so far;
- the walk over the servers in order, one request to each;
- the rule by which a failure lets the walk go on.

Does not own: which labels are asked for.
-/

namespace RemoteConfig

/-- What came back from a server that could be reached. -/
structure HttpReply where
  status : Nat
  contentType : Option String
  body : String
deriving DecidableEq, Repr, Inhabited

/-- A transport answers the last request of a history. -/
abbrev Transport := List ConfigRequest → Except TransportFailure HttpReply

/-- What a walk did, and how it ended. -/
structure Fetched where
  requests : List ConfigRequest
  logs : List LogLine
  outcome : Except FetchError (Option Environment)

namespace Fetched

/-- An end without any request. -/
def ended (outcome : Except FetchError (Option Environment)) : Fetched :=
  ⟨[], [], outcome⟩

/-- Puts one request and its reports in front. -/
def after (request : ConfigRequest) (logs : List LogLine) (rest : Fetched) : Fetched :=
  ⟨request :: rest.requests, logs ++ rest.logs, rest.outcome⟩

end Fetched

namespace Fetch

/-- What an answer means: an environment, or the failure of the round trip. -/
def interpret (uri : String) (answer : Except TransportFailure HttpReply) :
    Except FetchError Environment :=
  match answer with
  | .error failure => .error (.transport uri failure)
  | .ok reply =>
    if reply.status = 200 then
      match Environment.parse? reply.body with
      | some environment => .ok environment
      | none => .error (.malformedResponse uri)
    else if reply.status = 404 then .error (.notFound uri)
    else .error (.serverError uri reply.status reply.contentType reply.body)

/-- Does a failure other than an unknown environment let the walk go on? -/
def triesNext (error : FetchError) (strategy : UriStrategy) : Bool :=
  match error with
  | .transport .. => true
  | _ => error.isServerError && strategy == .always

/-- The report of a failure after which the walk goes on. -/
def goesOn (values : List (String × String)) : LogLine :=
  .info "Failed to fetch configs from server. Will try next URL if available." values

/-- Walks the servers at the given positions, after the requests of a history. -/
def walk (transport : Transport) (settings : ClientSettings) (targets : ServerTargets)
    (query : EnvironmentQuery) (shared : List (String × String)) :
    List ConfigRequest → List Nat → Fetched
  | _, [] => .ended (.ok none)
  | history, index :: others =>
    match (targets.credentials index).bind fun credentials =>
        ConfigRequest.build settings shared credentials query with
    | .error error => .ended (.error error)
    | .ok request =>
      let history := history ++ [request]
      let uri := request.url.text
      let fetching := LogLine.debug "Fetching environment" [("uri", uri)]
      let written := targets.writtenUri index
      match interpret uri (transport history) with
      | .ok environment => .after request [fetching] (.ended (.ok (some environment)))
      | .error error =>
        match error with
        | .notFound _ =>
          .after request [fetching, goesOn [("uri", written)]]
            (walk transport settings targets query shared history others)
        | _ =>
          if !others.isEmpty && triesNext error settings.strategy then
            .after request [fetching, goesOn [("uri", written), ("error", error.message)]]
              (walk transport settings targets query shared history others)
          else .after request [fetching] (.ended (.error error))

/-- Fetches one environment. The headers are checked before the first server is tried; running
out of servers that do not know the environment yields nothing. -/
def run (transport : Transport) (settings : ClientSettings) (targets : ServerTargets)
    (query : EnvironmentQuery) (state : Option String) (history : List ConfigRequest) : Fetched :=
  match ConfigRequest.sharedHeaders settings state with
  | .error error => .ended (.error error)
  | .ok shared =>
    walk transport settings targets query shared history (List.range targets.length)

end Fetch

end RemoteConfig
