import RemoteConfig.Json.Basic

/-!
Contract: the snapshot of configuration that servers and clients exchange.

Owns:
- property sources, and environments with their sources ordered from the highest precedence down;
- adding sources behind or in front of the others.

Does not own: the document form of an environment.
-/

namespace RemoteConfig

/-- One named group of properties, such as one file or one secret. -/
structure PropertySource where
  name : String
  source : Json.Fields
deriving Inhabited

/-- One snapshot of configuration for an application, its profiles and a label. -/
structure Environment where
  name : String
  profiles : List String
  label : Option String
  version : Option String
  state : Option String
  propertySources : List PropertySource
deriving Inhabited

namespace Environment

/-- An environment without sources. -/
def empty (name : String) (profiles : List String) (label : Option String) : Environment :=
  ⟨name, profiles, label, none, none, []⟩

/-- Appends sources of lower precedence, keeping their order. -/
def addAll (environment : Environment) (sources : List PropertySource) : Environment :=
  { environment with propertySources := environment.propertySources ++ sources }

/-- Appends one source of lower precedence. -/
def add (environment : Environment) (source : PropertySource) : Environment :=
  environment.addAll [source]

/-- Puts one source in front of all others. -/
def addFirst (environment : Environment) (source : PropertySource) : Environment :=
  { environment with propertySources := source :: environment.propertySources }

/-- The number of properties over all sources. -/
def propertyCount (environment : Environment) : Nat :=
  environment.propertySources.foldr (fun source count => source.source.length + count) 0

end Environment

end RemoteConfig
