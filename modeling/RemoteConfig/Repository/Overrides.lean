import RemoteConfig.Repository.Basic

/-!
Contract: fixed properties in front of another repository.

Owns:
- the source of the fixed properties and its name.

Does not own: the lookup of the other repository.
-/

namespace RemoteConfig.Repository

/-- The name of the source of fixed properties. -/
def overridesName : String := "overrides"

/-- An environment with fixed properties in front of its sources, when there are any. -/
def overridden (properties : Json.Fields) (environment : Environment) : Environment :=
  if properties.isEmpty then environment
  else environment.addFirst ⟨overridesName, properties⟩

/-- The repository that puts fixed properties in front of the answers of another one. -/
def withOverrides {σ : Type} (properties : Json.Fields) (inner : Repository σ) : Repository σ where
  name := "overrides(" ++ inner.name ++ ")"
  order := inner.order
  find query memory :=
    let found := inner.find query memory
    { found with outcome := found.outcome.map (overridden properties) }

end RemoteConfig.Repository
