import RemoteConfig.Proofs.Environment.Leaves
import RemoteConfig.Vault.Repository

/-!
Contract: what reading the secrets of some keys finds.

Owns:
- stores, which answer a read by its path alone;
- the source of a key in a store, and the value of a property in the secret of a key;
- `readKeys_of_serves`: from a store every key with properties becomes one source, in order.

Does not own: how a token is acquired, and the order in which sources are looked up.
-/

namespace RemoteConfig

/-- Reads with a token are answered by what a store holds at a path, whatever has been called before. -/
def VaultOperations.Serves (operations : VaultOperations) (token : String)
    (store : String → Option Json) : Prop :=
  ∀ history path, operations.read history path token = .ok (store path)

namespace VaultRepository

/-- The properties of the secret of a key; there are none where there is no secret. -/
def secretProperties (repository : VaultRepository) (store : String → Option Json)
    (label : Option String) (key : String) : Json.Fields :=
  ((store (repository.settings.secretPath key label)).map repository.settings.properties).getD []

/-- The source of a key, when its secret has properties. -/
def source? (repository : VaultRepository) (store : String → Option Json) (label : Option String)
    (key : String) : Option PropertySource :=
  let properties := repository.secretProperties store label key
  if properties.isEmpty then none else some ⟨VaultSettings.sourceName key, properties⟩

/-- The value of a property in the secret of a key. -/
def secretValue? (repository : VaultRepository) (store : String → Option Json)
    (label : Option String) (property key : String) : Option Json :=
  Fields.get? property (repository.secretProperties store label key)

/-- Every query has keys: at least that of the shared name or of an application. -/
theorem keys_ne_nil (settings : VaultSettings) (application : String) (profiles : List String) :
    settings.keys application profiles ≠ [] := by
  have bases : settings.keyBases (Text.splitList application) ≠ [] := by
    unfold VaultSettings.keyBases
    split
    · intro none
      simp_all
    · simp
  unfold VaultSettings.keys
  cases isBase : settings.keyBases (Text.splitList application) with
  | nil => exact absurd isBase bases
  | cons base others => simp [VaultSettings.keysOf]

section Reading

variable (repository : VaultRepository)

/-- Where two labels lead to the same secrets, reading with one is reading with the other. -/
theorem readKeys_congr {first second : Option String} {keys : List String}
    (same : ∀ key ∈ keys,
      repository.settings.secretPath key first = repository.settings.secretPath key second)
    (token : String) (history : List VaultCall) :
    repository.readKeys first token keys history = repository.readKeys second token keys history := by
  induction keys generalizing history with
  | nil => rfl
  | cons key rest inductionHypothesis =>
      obtain ⟨here, there⟩ := List.forall_mem_cons.mp same
      simp only [readKeys, here, inductionHypothesis there]

variable {token : String} {store : String → Option Json}
  (serves : repository.operations.Serves token store)

theorem sourceOf_store (label : Option String) (key : String) :
    (repository.settings.sourceOf key (repository.settings.secretPath key label)
        (store (repository.settings.secretPath key label))).1 =
      (repository.source? store label key).toList := by
  unfold VaultSettings.sourceOf source? secretProperties
  dsimp only
  split <;> rfl

include serves

/-- From a store, every key with properties becomes one source, in the order of the keys. -/
theorem readKeys_of_serves (label : Option String) (keys : List String)
    (history : List VaultCall) :
    (repository.readKeys label token keys history).outcome =
      .ok (keys.filterMap (repository.source? store label)) := by
  induction keys generalizing history with
  | nil => rfl
  | cons key rest inductionHypothesis =>
      have later := inductionHypothesis
        (history ++ [.read (repository.settings.secretPath key label) token])
      rw [readKeys]
      simp only [serves history (repository.settings.secretPath key label), later, Except.map,
        repository.sourceOf_store label key, List.filterMap_cons]
      cases repository.source? store label key <;> rfl

/-- A lookup in a store succeeds, with the sources of its keys. -/
theorem findForToken_of_serves (query : RepositoryQuery) (session : VaultSession) :
    (repository.findForToken query token session).outcome =
      .ok ((Environment.empty query.application (statedProfiles query) query.label).addAll
        ((repository.keys query).filterMap (repository.source? store query.label))) := by
  rw [findForToken, repository.readKeys_of_serves serves]
  rfl

end Reading

end VaultRepository

end RemoteConfig
