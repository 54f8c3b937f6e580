import RemoteConfig.Client.Settings
import RemoteConfig.Environment.Origin
import RemoteConfig.LogLine
import RemoteConfig.Pattern.Parse

/-!
Contract: the layers of resolved configuration.

Owns:
- layers with a name, properties and a precedence;
- the names that the layers of a server have, and the layer that marks a success;
- the classification of a layer by the profiles that are accepted.

Does not own: the order of the layers, and looking properties up.
-/

namespace RemoteConfig

/-- Whether a layer is visible for every profile or only for a matching one, above the others. -/
inductive Precedence where
  | general
  | profileSpecific
deriving DecidableEq, Repr

/-- One named layer; its properties are sorted by key. -/
structure Layer where
  name : String
  properties : List (String × PropertyValue)
  precedence : Precedence

namespace Layer

/-- The name of the layer that marks a success. -/
def markerName : String := "configClient"

/-- The name of a layer that a server has served. -/
def servedName (source : String) : String :=
  "configserver:" ++ source

def overridesName : String := servedName "overrides"

def stateKey : String := "config.client.state"

def versionKey : String := "config.client.version"

def get? (layer : Layer) (key : String) : Option PropertyValue :=
  Fields.get? key layer.properties

def isProfileSpecific (layer : Layer) : Bool :=
  layer.precedence == .profileSpecific

end Layer

namespace Profile

/-- The pattern of the names of layers for a profile; the profile is part of the pattern as it
stands. -/
def layerPattern (profile : String) : String :=
  "^.*[-,]" ++ profile ++ "\\b.*$"

/-- The accepted profiles that layers can be specific to. -/
def named (accepted : List String) : List String :=
  accepted.filter fun profile => profile != ClientSettings.defaultProfile

/-- The patterns of the accepted profiles; a profile that makes no pattern matches nothing. -/
def patterns (accepted : List String) : List Pattern :=
  (named accepted).filterMap fun profile => Pattern.ofString? (layerPattern profile)

/-- The reports of the profiles that make no pattern. -/
def reports (accepted : List String) : List LogLine :=
  ((named accepted).filter fun profile => (Pattern.ofString? (layerPattern profile)).isNone).map
    fun profile =>
      .debug "Profile is not a valid pattern; never matches" [("profile", profile)]

/-- The precedence of a layer under the patterns of the accepted profiles. -/
def classifyBy (patterns : List Pattern) (layer : String) : Precedence :=
  if layer = Layer.overridesName || patterns.any fun pattern => pattern.occursIn layer then
    .profileSpecific
  else .general

def classify (layer : String) (accepted : List String) : Precedence :=
  classifyBy (patterns accepted) layer

end Profile

end RemoteConfig
