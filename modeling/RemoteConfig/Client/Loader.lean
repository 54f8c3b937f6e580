import RemoteConfig.Client.ConfigData
import RemoteConfig.Client.Fetch
import RemoteConfig.Client.Unresolved

/-!
Contract: resolving a resource against config servers.

Owns:
- the walk over the candidate labels, each over all servers;
- discovery, and the configured servers in its place when nothing was discovered;
- what is measured about a resolution;
- steps that are wrapped around the resolution.

Does not own: the state that is carried from one resolution to the next.
-/

namespace RemoteConfig

/-- What one resolution may use besides the resource. -/
structure LoadContext where
  state : Option String
  discovered : Option DiscoveredInstances
deriving DecidableEq, Repr, Inhabited

/-- The inputs of a resolution. -/
structure LoadRequest where
  resource : ConfigResource
  context : LoadContext
deriving Repr

/-- How a resolution ended, as it is counted. -/
inductive ResolutionOutcome where
  | success
  | softFailure
  | fatal
deriving DecidableEq, Repr

/-- What happens around a resolution, in order: measurements, and notes of the steps that are
wrapped around it. -/
inductive ResolutionEvent where
  | attempted
  | counted (outcome : ResolutionOutcome)
  | timed (outcome : ResolutionOutcome)
  | note (text : String)
deriving DecidableEq, Repr

/-- What a resolution did, and how it ended. -/
structure Resolution where
  requests : List ConfigRequest
  logs : List LogLine
  events : List ResolutionEvent
  outcome : Except ConfigError (Option ConfigData)

/-- A step of a resolution, after the requests of a history. -/
abbrev ResolveStep := List ConfigRequest → LoadRequest → Resolution

namespace ResolutionOutcome

/-- The name under which an outcome is counted. -/
def name : ResolutionOutcome → String
  | success => "success"
  | softFailure => "soft_failure"
  | fatal => "fatal"

def ofResult : Except ConfigError (Option ConfigData) → ResolutionOutcome
  | .ok (some _) => .success
  | .ok none => .softFailure
  | .error _ => .fatal

end ResolutionOutcome

/-- A measurement: its name, the number that it adds to a count, and the outcome that it belongs to. -/
structure Measurement where
  name : String
  added : Option Nat
  outcome : Option ResolutionOutcome
deriving DecidableEq, Repr

namespace ResolutionEvent

/-- What an event measures; a note measures nothing. -/
def measurement? : ResolutionEvent → Option Measurement
  | attempted => some ⟨"resolution.attempts", some 1, none⟩
  | counted outcome => some ⟨"resolution.outcomes", some 1, some outcome⟩
  | timed outcome => some ⟨"resolution.duration", none, some outcome⟩
  | note _ => none

end ResolutionEvent

namespace Resolve

/-- The servers of a resolution. With discovery but nothing discovered, the configured ones share
the configured credential. -/
def targets (settings : ClientSettings) (context : LoadContext) : ServerTargets × List LogLine :=
  if settings.discovery.enabled then
    match context.discovered with
    | some instances => (.discovered instances, [])
    | none =>
      (.discovered ⟨settings.uris, some settings.username, settings.password⟩,
        [.debug "Discovery enabled without discovered instances; using configured URIs" []])
  else (.configured settings, [])

/-- Tries each label until one yields an environment. -/
def walkLabels (transport : Transport) (settings : ClientSettings) (targets : ServerTargets)
    (profiles : String) (state : Option String) :
    List ConfigRequest → List String → Fetched
  | _, [] => .ended (.ok none)
  | history, label :: others =>
    let query : EnvironmentQuery := ⟨settings.name, profiles, Text.trim label⟩
    let fetched := Fetch.run transport settings targets query state history
    match fetched.outcome with
    | .ok none =>
      let rest :=
        walkLabels transport settings targets profiles state (history ++ fetched.requests) others
      ⟨fetched.requests ++ rest.requests, fetched.logs ++ rest.logs, rest.outcome⟩
    | _ => fetched

/-- Searches for the environment of a resource. -/
def locate (transport : Transport) (resource : ConfigResource) (context : LoadContext)
    (history : List ConfigRequest) : Fetched :=
  let (targets, logs) := targets resource.settings context
  let fetched := walkLabels transport resource.settings targets resource.profiles context.state
    history resource.settings.candidateLabels
  { fetched with logs := logs ++ fetched.logs }

def locatedLogs (environment : Environment) : List LogLine :=
  let orNull (value : Option String) : String := value.getD "null"
  [.info ("Located environment: name=" ++ environment.name ++ ", profiles=["
      ++ Text.join ", " environment.profiles ++ "], label=" ++ orNull environment.label
      ++ ", version=" ++ orNull environment.version ++ ", state=" ++ orNull environment.state) [],
    .debug ("Environment " ++ environment.name ++ " has "
      ++ toString environment.propertySources.length ++ " property sources with "
      ++ toString environment.propertyCount ++ " properties.") []]

/-- Resolves a resource. -/
def run (transport : Transport) : ResolveStep := fun history request =>
  let resource := request.resource
  let fetched := locate transport resource request.context history
  match fetched.outcome with
  | .ok (some environment) =>
    { requests := fetched.requests
      logs := fetched.logs ++ locatedLogs environment ++ Profile.reports resource.acceptedProfiles
      events := []
      outcome := .ok (some (ConfigData.assemble environment resource.acceptedProfiles)) }
  | .ok none => concluded fetched (Unresolved.exhausted resource.settings.candidateLabels) resource
  | .error error => concluded fetched (Unresolved.failed error) resource
where
  /-- The end of a search without a result. -/
  concluded (fetched : Fetched) (unresolved : Unresolved) (resource : ConfigResource) :
      Resolution :=
    let (failure, logs) := unresolved.conclude resource
    { requests := fetched.requests
      logs := fetched.logs ++ logs
      events := []
      outcome := match failure with
        | some error => .error error
        | none => .ok none }

/-- A resolution that is measured. -/
def measured (step : ResolveStep) : ResolveStep := fun history request =>
  let resolution := step history request
  let outcome := ResolutionOutcome.ofResult resolution.outcome
  { resolution with
    events := [.attempted] ++ resolution.events ++ [.counted outcome, .timed outcome] }

end Resolve

/-- A loader: its transport, whether it measures, and the steps wrapped around the resolution; the
first one is the innermost. -/
structure Loader where
  transport : Transport
  measures : Bool
  wrappers : List (ResolveStep → ResolveStep)

namespace Loader

/-- The resolution without the steps around it. -/
def resolve (loader : Loader) : ResolveStep :=
  if loader.measures then Resolve.measured (Resolve.run loader.transport)
  else Resolve.run loader.transport

/-- The resolution with all steps around it. -/
def load (loader : Loader) : ResolveStep :=
  loader.wrappers.foldl (fun next wrap => wrap next) loader.resolve

end Loader

end RemoteConfig
