import RemoteConfig.Environment.Basic
import RemoteConfig.Json.Writer

/-!
Contract: where a served value comes from.

Owns:
- property values, either as served or taken out of a pair of value and origin;
- the rule that recognises such a pair: an object with exactly the fields `origin` and `value`;
- the description of an origin.

Does not own: which layer a value is looked up in.
-/

namespace RemoteConfig

/-- Where a value was defined: the source on the server and a position in it. -/
structure Origin where
  sourceName : String
  locator : Json
deriving Inhabited

/-- A property value, with its origin when the server reported one. -/
inductive PropertyValue where
  | raw (value : Json)
  | tracked (value : Json) (origin : Origin)
deriving Inhabited

namespace Origin

/-- The origin for people: a text position stands as it is, any other one as a document. -/
def describe (origin : Origin) : String :=
  let position := match origin.locator with
    | .string text => text
    | other => other.compact
  "Config Server " ++ origin.sourceName ++ ":" ++ position

end Origin

namespace PropertyValue

/-- The value itself. -/
def value : PropertyValue → Json
  | raw value => value
  | tracked value _ => value

/-- The origin, when one was reported. -/
def origin : PropertyValue → Option Origin
  | raw _ => none
  | tracked _ origin => some origin

def asString? (property : PropertyValue) : Option String :=
  property.value.asString?

/-- Takes a pair of value and origin apart; any other value stays as it is. -/
def ofServed (sourceName : String) (served : Json) : PropertyValue :=
  match served with
  | .object fields =>
    match fields.length == 2, Fields.get? "origin" fields, Fields.get? "value" fields with
    | true, some locator, some value => .tracked value ⟨sourceName, locator⟩
    | _, _, _ => .raw served
  | _ => .raw served

end PropertyValue

namespace PropertySource

def tracked (source : PropertySource) : List (String × PropertyValue) :=
  source.source.map fun (key, served) => (key, PropertyValue.ofServed source.name served)

end PropertySource

end RemoteConfig
