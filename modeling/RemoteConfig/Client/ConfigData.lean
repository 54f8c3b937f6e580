import RemoteConfig.Client.Layer
import RemoteConfig.Environment.Basic
import RemoteConfig.Error
import RemoteConfig.Tree.Path

/-!
Contract: configuration that was resolved from a config server.

Owns:
- layers in ascending order of priority, made from a located environment;
- looking up properties and layers, the state and the version;
- merging all layers into one tree, and whether lists of a bounded length have room for it.

Does not own: reading typed values from the tree.
-/

namespace RemoteConfig

/-- Layers in ascending order of priority: the marker first, the server's first source last. -/
structure ConfigData where
  layers : List Layer

namespace ConfigData

/-- The layer that marks a success, with the state and the version when they have text. -/
def markerLayer (environment : Environment) : Layer :=
  let value (key : String) (text : Option String) : List (String × PropertyValue) :=
    (Text.nonBlank text).toList.map fun text => (key, .raw (.string text))
  ⟨Layer.markerName,
    value Layer.stateKey environment.state ++ value Layer.versionKey environment.version, .general⟩

def servedLayer (patterns : List Pattern) (source : PropertySource) : Layer :=
  let name := Layer.servedName source.name
  ⟨name, source.tracked, Profile.classifyBy patterns name⟩

/-- The layers of a located environment under the accepted profiles. -/
def assemble (environment : Environment) (accepted : List String) : ConfigData :=
  let patterns := Profile.patterns accepted
  ⟨markerLayer environment :: (environment.propertySources.map (servedLayer patterns)).reverse⟩

/-- The layers from the highest priority down. -/
def byPrecedence (data : ConfigData) : List Layer :=
  data.layers.reverse

/-- The first layer of a name, in ascending order. -/
def layer? (data : ConfigData) (name : String) : Option Layer :=
  data.layers.find? fun layer => layer.name == name

/-- A property: layers for a profile count before general ones, and in each group the higher
priority counts. -/
def get? (data : ConfigData) (key : String) : Option PropertyValue :=
  let layers := data.byPrecedence
  (layers.filter Layer.isProfileSpecific ++ layers.filter fun layer => !layer.isProfileSpecific).findSome?
    fun layer => layer.get? key

def markerText? (data : ConfigData) (key : String) : Option String :=
  (data.layer? Layer.markerName).bind fun layer =>
    (layer.get? key).bind PropertyValue.asString?

/-- The state that the server returned. -/
def state? (data : ConfigData) : Option String :=
  data.markerText? Layer.stateKey

/-- The version that the server returned. -/
def version? (data : ConfigData) : Option String :=
  data.markerText? Layer.versionKey

/-- The layers in the order in which they are merged: general ones first. -/
def mergeOrder (data : ConfigData) : List Layer :=
  (data.layers.filter fun layer => !layer.isProfileSpecific) ++ data.layers.filter Layer.isProfileSpecific

/-- Puts a value under a path; a path that is already there keeps its place. -/
def putPath (path : Tree.Path) (value : Json) :
    List (Tree.Path × Json) → List (Tree.Path × Json)
  | [] => [(path, value)]
  | (other, otherValue) :: rest =>
    if other = path then (path, value) :: rest else (other, otherValue) :: putPath path value rest

/-- Puts the properties of a layer under their paths; a key that is no path is a fault. -/
def putLayer (settings : List (Tree.Path × Json)) (layer : Layer) :
    Except ConfigError (List (Tree.Path × Json)) :=
  layer.properties.foldlM (fun settings (key, property) =>
    match Tree.Path.parse? key with
    | some path => .ok (putPath path property.value settings)
    | none => .error (.load (.mergeLayer layer.name))) settings

/-- All layers in one tree; of several values at one path the last merged one counts. -/
def merged (data : ConfigData) : Except ConfigError Tree := do
  let settings ← data.mergeOrder.foldlM putLayer []
  pure (settings.foldl (fun tree (path, value) => tree.set path (Tree.ofJson value)) Tree.empty)

/-- Reads the merged layers as a typed value. -/
def deserialize {α : Type} (data : ConfigData) (read : Tree → Option α) : Except ConfigError α := do
  let tree ← data.merged
  match read tree with
  | some value => pure value
  | none => .error (.shape .configuration)

/-- Can the layers be merged where no list holds more than `capacity` items? All keys are read first, so
one that is no path ends merging before any list has grown. -/
def mergesWithin (capacity : Nat) (data : ConfigData) : Bool :=
  match data.mergeOrder.foldlM putLayer [] with
  | .error _ => true
  | .ok settings =>
    (settings.foldlM (fun (tree : Tree) setting =>
      tree.setWithin? capacity setting.1 (Tree.ofJson setting.2)) Tree.empty).isSome

/-- What reading the merged layers returns where no list holds more than `capacity` items. It returns
nothing, not even a fault, when a list would have to grow beyond. -/
def deserializeWithin? {α : Type} (capacity : Nat) (data : ConfigData) (read : Tree → Option α) :
    Option (Except ConfigError α) :=
  if data.mergesWithin capacity then some (data.deserialize read) else none

end ConfigData

end RemoteConfig
