import Mathlib.Data.List.Basic
import RemoteConfig.Proofs.Outcome
import RemoteConfig.Proofs.Vault.SecretPath
import RemoteConfig.Vault.Repository

/-!
Contract: the reads of a lookup with a token of the caller, and what they make of it.

Owns:
- the answer that each read of a lookup gets, behind the reads before it;
- the source that a secret yields under either version of a backend;
- repositories over secrets that are wrapped once more;
- `findForToken_readsInOrder`: what a lookup reads, when it fails, and which sources it serves.

Does not own: the keys of a query, the paths of secrets, and how a token is acquired.
-/

namespace RemoteConfig

/-! ### The source of a secret -/

namespace VaultSettings

variable (settings : VaultSettings)

/-- The data of a secret, which the second version of a backend keeps in a field. -/
def dataOf? (secret : Json) : Option Json :=
  if settings.kvVersion = 2 then secret.get? "data" else some secret

/-- The source of a key: its data has to be an object with at least one property. -/
def secretSource? (key : String) (secret : Json) : Option PropertySource :=
  match settings.dataOf? secret with
  | some (.object fields) =>
    if (flatten (.object fields)).isEmpty then none
    else some ⟨"vault:" ++ key, flatten (.object fields)⟩
  | _ => none

def wrap (secret : Json) : Json :=
  .object [("data", secret)]

theorem sourceOf_eq (key path : String) (secret : Option Json) :
    (settings.sourceOf key path secret).1 = (secret.bind (settings.secretSource? key)).toList := by
  have data (secret : Json) : (if settings.kvVersion = 2 then (secret.get? "data").getD .null
      else secret) = (settings.dataOf? secret).getD .null := by
    unfold dataOf?
    split <;> rfl
  cases secret with
  | none => rfl
  | some secret =>
      unfold sourceOf properties secretSource?
      dsimp only [Option.map_some, Option.getD_some, Option.bind_some]
      rw [data]
      cases settings.dataOf? secret with
      | none => rfl
      | some held =>
          cases held with
          | object fields =>
              dsimp only [Option.getD_some]
              split <;> rfl
          | _ => rfl

theorem secretSource?_wrap {plain wrapping : VaultSettings} (first : plain.kvVersion = 1)
    (second : wrapping.kvVersion = 2) (key : String) (secret : Json) :
    wrapping.secretSource? key (wrap secret) = plain.secretSource? key secret := by
  have inField : wrapping.dataOf? (wrap secret) = some secret := by
    rw [dataOf?, if_pos second]
    rfl
  have bare : plain.dataOf? secret = some secret := by
    rw [dataOf?, if_neg (by simp [first])]
  rw [secretSource?, secretSource?, inField, bare]

end VaultSettings

namespace VaultRepository

/-! ### The reads of some keys -/

section Reads

variable (repository : VaultRepository) (label : Option String) (token : String)

def readOf (key : String) : VaultCall :=
  .read (repository.settings.secretPath key label) token

/-- The answer to the read of the key at a position, when the keys before it have been read. -/
def answerAt? (keys : List String) (history : List VaultCall) (position : Nat) :
    Option (Except ConfigError (Option Json)) :=
  keys[position]?.map fun key =>
    repository.operations.read
      (history ++ (keys.take position).map (repository.readOf label token))
      (repository.settings.secretPath key label) token

/-- The read at a position is the first one that fails. -/
def FailsAt (keys : List String) (history : List VaultCall) (position : Nat) (error : ConfigError) :
    Prop :=
  repository.answerAt? label token keys history position = some (.error error) ∧
    ∀ earlier < position, ∃ secret,
      repository.answerAt? label token keys history earlier = some (.ok secret)

/-- All reads succeed, with the given secrets in order. -/
def Answers (keys : List String) (history : List VaultCall) (secrets : List (Option Json)) : Prop :=
  ∀ position, repository.answerAt? label token keys history position =
    secrets[position]?.map Except.ok

def sourcesOf (keys : List String) (secrets : List (Option Json)) : List PropertySource :=
  (keys.zip secrets).filterMap fun (key, secret) =>
    secret.bind (repository.settings.secretSource? key)

variable {repository label token} {key : String} {keys rest : List String}
  {history : List VaultCall}

theorem answerAt?_zero :
    repository.answerAt? label token (key :: rest) history 0 =
      some (repository.operations.read history (repository.settings.secretPath key label) token) := by
  simp [answerAt?]

theorem answerAt?_succ (position : Nat) :
    repository.answerAt? label token (key :: rest) history (position + 1) =
      repository.answerAt? label token rest (history ++ [repository.readOf label token key])
        position := by
  simp [answerAt?]

/-- Behind a read that succeeds, the first failure is that of the other reads. -/
theorem FailsAt.succ {secret : Option Json} {position : Nat} {error : ConfigError}
    (succeeds : repository.operations.read history (repository.settings.secretPath key label) token =
      .ok secret)
    (fails : repository.FailsAt label token rest (history ++ [repository.readOf label token key])
      position error) :
    repository.FailsAt label token (key :: rest) history (position + 1) error := by
  obtain ⟨failure, others⟩ := fails
  refine ⟨by rw [answerAt?_succ, failure], fun earlier before => ?_⟩
  cases earlier with
  | zero => exact ⟨secret, by rw [answerAt?_zero, succeeds]⟩
  | succ earlier =>
      rw [answerAt?_succ]
      exact others earlier (by omega)

theorem Answers.cons {secret : Option Json} {secrets : List (Option Json)}
    (succeeds : repository.operations.read history (repository.settings.secretPath key label) token =
      .ok secret)
    (answers : repository.Answers label token rest (history ++ [repository.readOf label token key])
      secrets) :
    repository.Answers label token (key :: rest) history (secret :: secrets) := by
  intro position
  cases position with
  | zero => rw [answerAt?_zero, succeeds]; rfl
  | succ position => rw [answerAt?_succ, answers position]; rfl

variable (repository label token) in
/-- Reading keys ends behind the last one, with the sources of all secrets, or with the first
failure. -/
theorem readKeys_cases (keys : List String) (history : List VaultCall) :
    (∃ secrets, repository.Answers label token keys history secrets ∧
      (repository.readKeys label token keys history).calls =
        keys.map (repository.readOf label token) ∧
      (repository.readKeys label token keys history).outcome =
        .ok (repository.sourcesOf keys secrets)) ∨
    ∃ position error, repository.FailsAt label token keys history position error ∧
      (repository.readKeys label token keys history).calls =
        (keys.take (position + 1)).map (repository.readOf label token) ∧
      (repository.readKeys label token keys history).outcome = .error error := by
  induction keys generalizing history with
  | nil => exact .inl ⟨[], fun _ => rfl, rfl, rfl⟩
  | cons key rest inductionHypothesis =>
      cases answered : repository.operations.read history
          (repository.settings.secretPath key label) token with
      | error error =>
          right
          refine ⟨0, error, ⟨by rw [answerAt?_zero, answered], fun earlier before => ?_⟩, ?_, ?_⟩
          · exact absurd before (Nat.not_lt_zero earlier)
          · simp only [readKeys, answered]
            rfl
          · simp only [readKeys, answered]
      | ok secret =>
          have later := inductionHypothesis (history ++ [repository.readOf label token key])
          unfold readOf at later
          rcases later with ⟨secrets, answers, calls, outcome⟩ | ⟨position, error, fails, calls, outcome⟩
          · left
            refine ⟨secret :: secrets, answers.cons answered, ?_, ?_⟩
            · simp only [readKeys, answered, calls]
              rfl
            · simp only [readKeys, answered, outcome, VaultSettings.sourceOf_eq, sourcesOf]
              cases source : secret.bind (repository.settings.secretSource? key) <;>
                simp [source, Except.map]
          · right
            refine ⟨position + 1, error, fails.succ answered, ?_, ?_⟩
            · simp only [readKeys, answered, calls]
              rfl
            · simp only [readKeys, answered, outcome, Except.map]

theorem FailsAt.unique {position other : Nat} {error fault : ConfigError}
    (fails : repository.FailsAt label token keys history position error)
    (otherFails : repository.FailsAt label token keys history other fault) :
    position = other ∧ error = fault := by
  obtain ⟨failure, before⟩ := fails
  obtain ⟨otherFailure, otherBefore⟩ := otherFails
  have same : position = other := by
    rcases Nat.lt_trichotomy position other with less | same | more
    · obtain ⟨secret, succeeds⟩ := otherBefore position less
      rw [failure] at succeeds
      cases succeeds
    · exact same
    · obtain ⟨secret, succeeds⟩ := before other more
      rw [otherFailure] at succeeds
      cases succeeds
  subst same
  rw [failure] at otherFailure
  cases otherFailure
  exact ⟨rfl, rfl⟩

theorem Answers.unique {secrets others : List (Option Json)}
    (answers : repository.Answers label token keys history secrets)
    (otherAnswers : repository.Answers label token keys history others) : secrets = others := by
  apply List.ext_getElem?
  intro position
  have same := (answers position).symm.trans (otherAnswers position)
  exact Option.map_injective (fun _ _ => Except.ok.inj) same

theorem Answers.not_failsAt {secrets : List (Option Json)} {position : Nat} {error : ConfigError}
    (answers : repository.Answers label token keys history secrets) :
    ¬ repository.FailsAt label token keys history position error := by
  rintro ⟨failure, _⟩
  rw [answers position] at failure
  obtain ⟨secret, _, same⟩ := Option.map_eq_some_iff.mp failure
  cases same

theorem FailsAt.readKeys {position : Nat} {error : ConfigError}
    (fails : repository.FailsAt label token keys history position error) :
    (repository.readKeys label token keys history).calls =
        (keys.take (position + 1)).map (repository.readOf label token) ∧
      (repository.readKeys label token keys history).outcome = .error error := by
  rcases repository.readKeys_cases label token keys history with
    ⟨secrets, answers, _, _⟩ | ⟨other, fault, otherFails, calls, outcome⟩
  · exact absurd fails answers.not_failsAt
  · obtain ⟨rfl, rfl⟩ := fails.unique otherFails
    exact ⟨calls, outcome⟩

theorem Answers.readKeys {secrets : List (Option Json)}
    (answers : repository.Answers label token keys history secrets) :
    (repository.readKeys label token keys history).calls =
        keys.map (repository.readOf label token) ∧
      (repository.readKeys label token keys history).outcome =
        .ok (repository.sourcesOf keys secrets) := by
  rcases repository.readKeys_cases label token keys history with
    ⟨others, otherAnswers, calls, outcome⟩ | ⟨position, error, fails, _, _⟩
  · cases answers.unique otherAnswers
    exact ⟨calls, outcome⟩
  · exact absurd fails answers.not_failsAt

variable (repository label token keys history) in
theorem answers_or_failsAt :
    (∃ secrets, repository.Answers label token keys history secrets) ∨
      ∃ position error, repository.FailsAt label token keys history position error := by
  rcases repository.readKeys_cases label token keys history with
    ⟨secrets, answers, _, _⟩ | ⟨position, error, fails, _, _⟩
  · exact .inl ⟨secrets, answers⟩
  · exact .inr ⟨position, error, fails⟩

theorem readKeys_eq_error_iff {error : ConfigError} :
    (repository.readKeys label token keys history).outcome = .error error ↔
      ∃ position, repository.FailsAt label token keys history position error := by
  constructor
  · intro failed
    rcases answers_or_failsAt repository label token keys history with
      ⟨secrets, answers⟩ | ⟨position, fault, fails⟩
    · cases answers.readKeys.2.symm.trans failed
    · cases fails.readKeys.2.symm.trans failed
      exact ⟨position, fails⟩
  · rintro ⟨position, fails⟩
    exact fails.readKeys.2

end Reads

/-! ### Secrets that are wrapped once more -/

/-- A repository of the second version, whose reads are answered as those of a repository of the first
version are, but with every secret wrapped. -/
structure Wraps (plain wrapping : VaultRepository) (label : Option String) (token : String)
    (history wrappingHistory : List VaultCall) : Prop where
  first : plain.settings.kvVersion = 1
  settings : wrapping.settings = { plain.settings with kvVersion := 2 }
  answers : ∀ (keys : List String) (key : String),
    wrapping.operations.read (wrappingHistory ++ keys.map (wrapping.readOf label token))
        (wrapping.settings.secretPath key label) token =
      (plain.operations.read (history ++ keys.map (plain.readOf label token))
        (plain.settings.secretPath key label) token).map (Option.map VaultSettings.wrap)

section Wrapped

variable {plain wrapping : VaultRepository} {label : Option String} {token : String}
  {history wrappingHistory : List VaultCall}
  (wraps : plain.Wraps wrapping label token history wrappingHistory) {keys : List String}

include wraps

theorem Wraps.answerAt? (position : Nat) :
    wrapping.answerAt? label token keys wrappingHistory position =
      (plain.answerAt? label token keys history position).map
        (Except.map (Option.map VaultSettings.wrap)) := by
  unfold VaultRepository.answerAt?
  rw [Option.map_map]
  apply congrArg (keys[position]?.map ·)
  funext key
  exact wraps.answers (keys.take position) key

theorem Wraps.failsAt {position : Nat} {error : ConfigError}
    (fails : plain.FailsAt label token keys history position error) :
    wrapping.FailsAt label token keys wrappingHistory position error := by
  obtain ⟨failure, others⟩ := fails
  refine ⟨by rw [wraps.answerAt?, failure]; rfl, fun earlier before => ?_⟩
  obtain ⟨secret, succeeds⟩ := others earlier before
  exact ⟨secret.map VaultSettings.wrap, by rw [wraps.answerAt?, succeeds]; rfl⟩

theorem Wraps.allAnswered {secrets : List (Option Json)}
    (answers : plain.Answers label token keys history secrets) :
    wrapping.Answers label token keys wrappingHistory
      (secrets.map (Option.map VaultSettings.wrap)) := by
  intro position
  rw [wraps.answerAt?, answers position, List.getElem?_map, Option.map_map, Option.map_map]
  rfl

theorem Wraps.sourcesOf (secrets : List (Option Json)) :
    wrapping.sourcesOf keys (secrets.map (Option.map VaultSettings.wrap)) =
      plain.sourcesOf keys secrets := by
  have second : wrapping.settings.kvVersion = 2 := by rw [wraps.settings]
  unfold VaultRepository.sourcesOf
  rw [List.zip_map_right, List.filterMap_map]
  apply List.filterMap_congr
  intro pair _
  obtain ⟨key, secret⟩ := pair
  cases secret with
  | none => rfl
  | some secret => exact VaultSettings.secretSource?_wrap wraps.first second key secret

theorem Wraps.readKeys :
    (wrapping.readKeys label token keys wrappingHistory).outcome =
      (plain.readKeys label token keys history).outcome := by
  rcases answers_or_failsAt plain label token keys history with
    ⟨secrets, answers⟩ | ⟨position, error, fails⟩
  · rw [answers.readKeys.2, (wraps.allAnswered answers).readKeys.2, wraps.sourcesOf]
  · rw [fails.readKeys.2, (wraps.failsAt fails).readKeys.2]

end Wrapped

/-! ### Lookups -/

/-- The profiles of a list without the default one. -/
def namedProfiles (profile : String) : List String :=
  (Text.splitList profile).filter fun name => name != defaultProfile

/-- What a lookup with a token of the caller reads and serves. -/
structure ReadsInOrder (repository : VaultRepository) (query : RepositoryQuery) (token : String)
    (session : VaultSession) : Prop where
  /-- Each read has the token of the caller, and the path of a key under the label of the caller. -/
  reads : ∀ key, repository.readOf query.label token key =
    .read (repository.settings.spelledPath key query.label) token
  /-- The lookup fails exactly with the first failure of a read. -/
  fails : ∀ error, (repository.findForToken query token session).outcome = .error error ↔
    ∃ position, repository.FailsAt query.label token (repository.keys query) session.calls position
      error
  /-- Behind that read nothing is read; the ones before it are those of the keys in their order. -/
  stops : ∀ position error,
    repository.FailsAt query.label token (repository.keys query) session.calls position error →
      (repository.findForToken query token session).memory = session.after
        (((repository.keys query).take (position + 1)).map (repository.readOf query.label token))
  /-- If no read fails, every secret is read, and each that has properties becomes one source. -/
  serves : (∃ position error, repository.FailsAt query.label token (repository.keys query)
      session.calls position error) ∨
    ∃ secrets, repository.Answers query.label token (repository.keys query) session.calls secrets ∧
      (repository.findForToken query token session).memory = session.after
        ((repository.keys query).map (repository.readOf query.label token)) ∧
      (repository.findForToken query token session).outcome = .ok
        { Environment.empty query.application (statedProfiles query) query.label with
          propertySources := repository.sourcesOf (repository.keys query) secrets }
  /-- Profiles by default make no difference, wherever they stand among the others. -/
  defaults : ∀ profile, namedProfiles profile = namedProfiles query.profile →
    (repository.findForToken { query with profile := profile } token session).memory =
        (repository.findForToken query token session).memory ∧
      (repository.findForToken { query with profile := profile } token session).outcome.map
          Environment.propertySources =
        (repository.findForToken query token session).outcome.map Environment.propertySources
  /-- Wrapped secrets under the second version of a backend lead to the same environment. -/
  versions : ∀ (wrapping : VaultRepository) (wrappingSession : VaultSession),
    repository.Wraps wrapping query.label token session.calls wrappingSession.calls →
      (wrapping.findForToken query token wrappingSession).outcome =
        (repository.findForToken query token session).outcome

theorem findForToken_of_named (repository : VaultRepository) (query : RepositoryQuery)
    (token : String) (session : VaultSession) {profile : String}
    (named : namedProfiles profile = namedProfiles query.profile) :
    (repository.findForToken { query with profile := profile } token session).memory =
        (repository.findForToken query token session).memory ∧
      (repository.findForToken { query with profile := profile } token session).outcome.map
          Environment.propertySources =
        (repository.findForToken query token session).outcome.map Environment.propertySources := by
  have keys : repository.keys { query with profile := profile } = repository.keys query :=
    congrArg (repository.settings.keys query.application) named
  unfold findForToken
  rw [keys]
  refine ⟨rfl, ?_⟩
  dsimp only
  cases (repository.readKeys query.label token (repository.keys query) session.calls).outcome <;> rfl

/-- Every lookup with a token of the caller reads the secrets of its keys in order, up to the first
failure, and serves what has properties. -/
theorem findForToken_readsInOrder (repository : VaultRepository) (query : RepositoryQuery)
    (token : String) (session : VaultSession) : repository.ReadsInOrder query token session := by
  have memory : (repository.findForToken query token session).memory = session.after
      (repository.readKeys query.label token (repository.keys query) session.calls).calls := rfl
  have outcome : (repository.findForToken query token session).outcome =
      (repository.readKeys query.label token (repository.keys query) session.calls).outcome.map
        (Environment.empty query.application (statedProfiles query) query.label).addAll := by
    rw [findForToken]
  constructor
  case reads =>
    intro key
    rw [readOf, VaultSettings.secretPath_eq_spelledPath]
  case fails =>
    intro error
    rw [outcome, map_eq_error_iff]
    exact readKeys_eq_error_iff
  case stops =>
    intro position error fails
    rw [memory, fails.readKeys.1]
  case serves =>
    rcases answers_or_failsAt repository query.label token (repository.keys query) session.calls with
      ⟨secrets, answers⟩ | failed
    · refine .inr ⟨secrets, answers, ?_, ?_⟩
      · rw [memory, answers.readKeys.1]
      · simp [outcome, answers.readKeys.2, Except.map, Environment.addAll, Environment.empty]
    · exact .inl failed
  case defaults =>
    intro profile named
    exact repository.findForToken_of_named query token session named
  case versions =>
    intro wrapping wrappingSession wraps
    have keys : wrapping.keys query = repository.keys query := by
      unfold VaultRepository.keys
      rw [wraps.settings]
      rfl
    unfold findForToken
    dsimp only
    rw [keys, wraps.readKeys]

/-- A repository of the given version, where reads are answered by path. -/
def holding (version : Nat) (store : String → Option Json) : VaultRepository where
  settings := { VaultSettings.defaults with kvVersion := version }
  context := ⟨FileSystem.empty, [], 0, []⟩
  operations :=
    { read := fun _ path _ => .ok (store path)
      login := fun _ _ _ _ => .ok ""
      fetch := fun _ _ => .ok "" }

/-- The secrets of an application: one for a profile, a text, and one without properties. -/
def appSecrets : List (String × Json) :=
  [("app,prod", .object [("db", .object [("password", .string "p")])]), ("app", .string "text"),
    ("application,prod", .object [])]

def plainSecrets : VaultRepository :=
  holding 1 fun path => appSecrets.lookup (String.ofList (path.toList.drop 7))

def wrappedSecrets : VaultRepository :=
  holding 2 fun path =>
    (appSecrets.lookup (String.ofList (path.toList.drop 12))).map VaultSettings.wrap

theorem secretPath_holding (version : Nat) (store : String → Option Json) (key : String) :
    ((holding version store).settings.secretPath key none).toList =
      (if version = 2 then "secret/data/".toList else "secret/".toList) ++ key.toList := by
  have backend : VaultSettings.withoutLast VaultSettings.defaults.backend = "secret" := by
    decide +kernel
  have inner : String.ofList (Text.trimBy VaultSettings.isSeparator
      VaultSettings.defaults.pathToKey.toList) = "" := by decide +kernel
  have labels : VaultSettings.defaults.labelEnabled = false := rfl
  simp only [holding, VaultSettings.secretPath, VaultSettings.pathParts, VaultSettings.labelPart,
    backend, inner, labels]
  split <;> simp [Text.join]

theorem wraps_plainSecrets (token : String) (history wrappingHistory : List VaultCall) :
    plainSecrets.Wraps wrappedSecrets none token history wrappingHistory where
  first := rfl
  settings := rfl
  answers keys key := by
    have plain : String.ofList ((plainSecrets.settings.secretPath key none).toList.drop 7) = key := by
      rw [plainSecrets, secretPath_holding, if_neg (by decide)]
      simp
    have wrapped :
        String.ofList ((wrappedSecrets.settings.secretPath key none).toList.drop 12) = key := by
      rw [wrappedSecrets, secretPath_holding, if_pos rfl]
      simp
    show Except.ok ((appSecrets.lookup _).map VaultSettings.wrap) =
      Except.ok ((appSecrets.lookup _).map VaultSettings.wrap)
    rw [plain, wrapped]

/-- The same secrets, with labels in their paths. -/
def labelledSecrets : VaultRepository :=
  { plainSecrets with settings := { plainSecrets.settings with labelEnabled := true } }

/-- Of three secrets of an application only the one with properties is served, under both versions of
a backend, and the profile by default adds nothing; where labels are enabled, they are read under the
label of the caller, or under the default one. -/
theorem findForToken_readsInOrder_plain :
    (wrappedSecrets.findForToken ⟨"app", "prod", none⟩ "s.app" .start).outcome =
        (plainSecrets.findForToken ⟨"app", "prod", none⟩ "s.app" .start).outcome ∧
      namedProfiles "default, prod" = namedProfiles "prod" ∧
      (plainSecrets.findForToken ⟨"app", "default, prod", none⟩ "s.app" .start).outcome.map
          Environment.propertySources =
        .ok [⟨"vault:app,prod", [("db.password", .string "p")]⟩] ∧
      labelledSecrets.readOf (some "v2") "s.app" "app,prod" =
        .read "secret/app,prod/v2" "s.app" ∧
      labelledSecrets.readOf (some " ") "s.app" "app,prod" =
        .read "secret/app,prod/main" "s.app" := by
  have inOrder := findForToken_readsInOrder plainSecrets ⟨"app", "prod", none⟩ "s.app" .start
  have labelled := findForToken_readsInOrder labelledSecrets ⟨"app", "prod", some "v2"⟩ "s.app" .start
  have blank := findForToken_readsInOrder labelledSecrets ⟨"app", "prod", some " "⟩ "s.app" .start
  have named : namedProfiles "default, prod" = namedProfiles "prod" := by decide +kernel
  refine ⟨inOrder.versions wrappedSecrets .start (wraps_plainSecrets _ _ _), named, ?_, ?_, ?_⟩
  · rw [(inOrder.defaults "default, prod" named).2]
    rfl
  · exact (labelled.reads "app,prod").trans (congrArg (VaultCall.read · "s.app") (by decide +kernel))
  · exact (blank.reads "app,prod").trans (congrArg (VaultCall.read · "s.app") (by decide +kernel))

end VaultRepository

end RemoteConfig
