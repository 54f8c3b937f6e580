import Mathlib.Data.List.Basic
import RemoteConfig.Proofs.Client.Lookup
import RemoteConfig.Proofs.Repository.Precedence
import RemoteConfig.Proofs.Vault.Reading

/-!
Contract: the order in which the client looks a property up in the secrets of a query.

Owns:
- the keys whose layers are for a requested profile, told by their names;
- the keys in the order of the client: those for a profile first, each group as the repository has it;
- `precedence_fromSecrets`: the client finds a property in the first of these keys whose secret has it.

Does not own: profiles that are patterns of their own, and stores that fail.
-/

namespace RemoteConfig

theorem Profile.standsIn_append_of_isUnseparated {profile front name : String}
    (isUnseparated : IsUnseparated front) :
    StandsIn profile (front ++ name) ↔ StandsIn profile name := by
  constructor
  · rintro ⟨before, separator, behind, parts, isSeparator, ends⟩
    have notInFront : separator ∉ front.toList := by
      intro member
      obtain ⟨noHyphen, noComma, _⟩ := isUnseparated separator member
      exact isSeparator.elim noHyphen noComma
    rw [String.toList_append, List.append_eq_append_iff] at parts
    rcases parts with ⟨inner, _, isName⟩ | ⟨inner, isFront, rest⟩
    · exact ⟨inner, separator, behind, isName, isSeparator, ends⟩
    · cases inner with
      | nil => exact ⟨[], separator, behind, rest.symm, isSeparator, ends⟩
      | cons first inner =>
          obtain ⟨rfl, _⟩ := List.cons.inj rest
          exact absurd (by simp [isFront]) notInFront
  · rintro ⟨before, separator, behind, isName, isSeparator, ends⟩
    exact ⟨front.toList ++ before, separator, behind, by simp [isName], isSeparator, ends⟩

namespace VaultRepository

/-! ### The layers of keys -/

/-- Does a key name one of some profiles? The profile makes a pattern and stands in the key, which is
one line. -/
def NamesProfile (profiles : List String) (key : String) : Prop :=
  '\n' ∉ key.toList ∧ ∃ profile ∈ profiles,
    Profile.MakesPattern profile ∧ Profile.StandsIn profile key

/-- Is the layer of a key one for an accepted profile? -/
def isConsultedFirst (accepted : List String) (key : String) : Bool :=
  ConfigData.isSpecific accepted ⟨VaultSettings.sourceName key, []⟩

theorem isConsultedFirst_iff {accepted : List String}
    (areWords : ∀ profile ∈ accepted,
      Profile.IsWord profile ∧ profile ≠ ClientSettings.defaultProfile) (key : String) :
    isConsultedFirst accepted key = true ↔ NamesProfile accepted key := by
  have allNamed : Profile.named accepted = accepted :=
    List.filter_eq_self.mpr fun profile member => by simpa using (areWords profile member).2
  have layer : Layer.servedName (VaultSettings.sourceName key) = "configserver:vault:" ++ key := by
    simp [Layer.servedName, VaultSettings.sourceName, ← String.append_assoc]
  have beginning : IsUnseparated "configserver:vault:" := by decide
  have noOverrides : Layer.servedName (VaultSettings.sourceName key) ≠ Layer.overridesName := by
    refine Profile.servedName_ne_overridesName fun same => ?_
    have first := congrArg (fun text : String => text.toList.head?) same
    simp [VaultSettings.sourceName] at first
  have oneLine : '\n' ∉ ("configserver:vault:" ++ key).toList ↔ '\n' ∉ key.toList := by
    simp
  unfold isConsultedFirst ConfigData.isSpecific NamesProfile
  rw [layer] at noOverrides
  rw [beq_iff_eq, layer, Profile.classify_eq_profileSpecific_iff
    (allNamed.symm ▸ fun profile member => (areWords profile member).1), allNamed]
  simp only [noOverrides, false_or, oneLine, Profile.standsIn_append_of_isUnseparated beginning]
  constructor
  · rintro ⟨profile, member, makes, isLine, stands⟩
    exact ⟨isLine, profile, member, makes, stands⟩
  · rintro ⟨isLine, profile, member, makes, stands⟩
    exact ⟨profile, member, makes, isLine, stands⟩

/-- The keys of a query in the order in which the client looks properties up: first those that name a
requested profile, and behind them the others, both from the highest precedence down. -/
def consulted (repository : VaultRepository) (query : RepositoryQuery) : List String :=
  let isFirst := isConsultedFirst (Text.splitList query.profile)
  (repository.keys query).filter isFirst ++ (repository.keys query).filter fun key => !isFirst key

/-! ### Looking a property up -/

theorem isLeaf_of_mem_properties {settings : VaultSettings} {secret : Json}
    {field : String × Json} (member : field ∈ settings.properties secret) : field.2.IsLeaf := by
  unfold VaultSettings.properties at member
  dsimp only at member
  split at member
  · exact isLeaf_of_mem_flatten member
  · cases member

section Reading

variable (repository : VaultRepository) (store : String → Option Json) (label : Option String)

/-- Secrets hold leaves, which the client sees as they are. -/
theorem served?_secret (property key : String) :
    ConfigData.served? property
        ⟨VaultSettings.sourceName key, repository.secretProperties store label key⟩ =
      (repository.secretValue? store label property key).map PropertyValue.raw := by
  unfold ConfigData.served? secretValue? secretProperties
  cases store (repository.settings.secretPath key label) with
  | none => rfl
  | some secret =>
      dsimp only [Option.map_some, Option.getD_some]
      cases found : Fields.get? property (repository.settings.properties secret) with
      | none => rfl
      | some value =>
          have isLeaf : value.IsLeaf := isLeaf_of_mem_properties (Fields.mem_of_get? found)
          rw [Option.map_some, Option.map_some, PropertyValue.ofServed_of_isLeaf isLeaf]

theorem bind_source? (property key : String) :
    (repository.source? store label key).bind (ConfigData.served? property) =
      (repository.secretValue? store label property key).map PropertyValue.raw := by
  unfold source?
  dsimp only
  split
  · rename_i isEmpty
    rw [secretValue?, List.isEmpty_iff.mp isEmpty]
    rfl
  · exact repository.served?_secret store label property key

theorem findSome?_sources (property : String) (keys : List String) :
    (keys.filterMap (repository.source? store label)).findSome? (ConfigData.served? property) =
      (keys.findSome? (repository.secretValue? store label property)).map PropertyValue.raw := by
  induction keys with
  | nil => rfl
  | cons key rest inductionHypothesis =>
      have here := repository.bind_source? store label property key
      rw [List.filterMap_cons, List.findSome?_cons]
      -- A key without a source has no properties, so it decides nothing either way.
      cases isSource : repository.source? store label key with
      | none =>
          rw [isSource, Option.bind_none] at here
          rw [Option.map_eq_none_iff.mp here.symm]
          exact inductionHypothesis
      | some source =>
          rw [isSource, Option.bind_some] at here
          dsimp only
          rw [List.findSome?_cons, here, inductionHypothesis]
          cases repository.secretValue? store label property key <;> rfl

theorem filter_sources (accepted : List String) (keys : List String) (wanted : Bool → Bool) :
    (keys.filterMap (repository.source? store label)).filter
        (fun source => wanted (ConfigData.isSpecific accepted source)) =
      (keys.filter fun key => wanted (isConsultedFirst accepted key)).filterMap
        (repository.source? store label) := by
  rw [List.filter_filterMap, List.filterMap_filter]
  refine List.filterMap_congr fun key _ => ?_
  unfold source?
  dsimp only
  split
  · rw [ite_self]
    rfl
  · rw [Option.filter_some]
    rfl

end Reading

section Plain

variable {repository : VaultRepository} {query : RepositoryQuery}

/-- Keys join profiles with a comma, the requested profiles are words, and applications have no hyphen
in their names, which are single lines. -/
structure IsPlain (repository : VaultRepository) (query : RepositoryQuery) : Prop where
  separator : repository.settings.profileSeparator = ","
  profiles : ∀ profile ∈ Text.splitList query.profile,
    Profile.IsWord profile ∧ profile ≠ ClientSettings.defaultProfile
  applications : ∀ name ∈ Text.splitList query.application,
    '-' ∉ name.toList ∧ '\n' ∉ name.toList

/-- The names that the keys of a query are built from. -/
def bases (repository : VaultRepository) (query : RepositoryQuery) : List String :=
  repository.settings.keyBases (Text.splitList query.application)

/-- The keys of one name for the requested profiles. -/
def variants (query : RepositoryQuery) (base : String) : List String :=
  (Text.splitList query.profile).map fun profile => base ++ "," ++ profile

theorem IsPlain.isUnseparated_base (isPlain : repository.IsPlain query)
    (plainDefault : IsUnseparated repository.settings.defaultKey) :
    ∀ base ∈ repository.bases query, IsUnseparated base := by
  have applications : ∀ name ∈ Text.splitList query.application, IsUnseparated name := by
    intro name member character inside
    obtain ⟨noHyphen, oneLine⟩ := isPlain.applications name member
    exact ⟨ne_of_mem_of_not_mem inside noHyphen,
      ne_of_mem_of_not_mem inside (Text.not_mem_of_mem_splitList member),
      ne_of_mem_of_not_mem inside oneLine⟩
  unfold bases VaultSettings.keyBases
  split
  · exact applications
  · exact List.forall_mem_cons.mpr ⟨plainDefault, applications⟩

theorem IsPlain.keys_eq (isPlain : repository.IsPlain query) :
    repository.keys query =
      ((repository.bases query).flatMap fun base => base :: variants query base).reverse := by
  have requested : (Text.splitList query.profile).filter (fun profile => profile != defaultProfile) =
      Text.splitList query.profile :=
    List.filter_eq_self.mpr fun profile member =>
      bne_iff_ne.mpr (isPlain.profiles profile member).2
  have ofBase : repository.settings.keysOf (Text.splitList query.profile) =
      fun base => base :: variants query base := by
    funext base
    rw [VaultSettings.keysOf, isPlain.separator]
    rfl
  rw [keys, requested, VaultSettings.keys, ofBase]
  rfl

/-- Below a name without separators, the keys for a profile are the variants. -/
theorem IsPlain.isConsultedFirst_variant (isPlain : repository.IsPlain query)
    (makePatterns : ∀ profile ∈ Text.splitList query.profile, Profile.MakesPattern profile)
    {base : String} (isUnseparated : IsUnseparated base) :
    ∀ key ∈ variants query base, isConsultedFirst (Text.splitList query.profile) key = true := by
  intro key member
  obtain ⟨profile, requested, rfl⟩ := List.mem_map.mp member
  have inLine := (Profile.isUnseparated_of_isWord (isPlain.profiles profile requested).1).oneLine
  refine (isConsultedFirst_iff isPlain.profiles _).mpr
    ⟨by simp [isUnseparated.oneLine, inLine], profile, requested, makePatterns profile requested, ?_⟩
  exact ⟨base.toList, ',', [], by simp, .inr rfl, rfl⟩

theorem IsPlain.isConsultedFirst_base (isPlain : repository.IsPlain query) {base : String}
    (isUnseparated : IsUnseparated base) :
    isConsultedFirst (Text.splitList query.profile) base = false := by
  refine Bool.eq_false_iff.mpr fun isFirst => ?_
  obtain ⟨_, profile, _, _, stands⟩ := (isConsultedFirst_iff isPlain.profiles base).mp isFirst
  exact Profile.not_standsIn_of_isUnseparated isUnseparated stands

/-- With a shared name without separators and profiles that make patterns, the client consults all
variants before all names. -/
theorem IsPlain.consulted_eq (isPlain : repository.IsPlain query)
    (plainDefault : IsUnseparated repository.settings.defaultKey)
    (makePatterns : ∀ profile ∈ Text.splitList query.profile, Profile.MakesPattern profile) :
    repository.consulted query =
      ((repository.bases query).flatMap (variants query)).reverse ++
        (repository.bases query).reverse := by
  have areUnseparated := isPlain.isUnseparated_base plainDefault
  have first : ∀ base ∈ repository.bases query,
      (base :: variants query base).filter (isConsultedFirst (Text.splitList query.profile)) =
        variants query base := by
    intro base member
    rw [List.filter_cons_of_neg (by simp [isPlain.isConsultedFirst_base (areUnseparated base member)])]
    exact List.filter_eq_self.mpr
      (isPlain.isConsultedFirst_variant makePatterns (areUnseparated base member))
  have others : ∀ base ∈ repository.bases query,
      (base :: variants query base).filter
          (fun key => !isConsultedFirst (Text.splitList query.profile) key) = [base] := by
    intro base member
    rw [List.filter_cons_of_pos (by simp [isPlain.isConsultedFirst_base (areUnseparated base member)]),
      List.filter_eq_nil_iff.mpr]
    intro key isVariant
    simp [isPlain.isConsultedFirst_variant makePatterns (areUnseparated base member) key isVariant]
  unfold consulted
  dsimp only
  rw [isPlain.keys_eq, List.filter_reverse, List.filter_reverse, List.filter_flatMap,
    List.filter_flatMap, List.flatMap_congr first, List.flatMap_congr others,
    List.flatMap_singleton' (repository.bases query)]

/-- With keys of a single name, or without profiles, the client has the order of the repository. -/
theorem IsPlain.consulted_eq_keys (isPlain : repository.IsPlain query)
    (plainDefault : IsUnseparated repository.settings.defaultKey)
    (makePatterns : ∀ profile ∈ Text.splitList query.profile, Profile.MakesPattern profile)
    (single : (∃ base, repository.bases query = [base]) ∨ Text.splitList query.profile = []) :
    repository.consulted query = repository.keys query := by
  rw [isPlain.consulted_eq plainDefault makePatterns, isPlain.keys_eq]
  rcases single with ⟨base, isBase⟩ | noProfile
  · rw [isBase]
    simp
  · have noVariants : variants query = fun _ => [] := by
      funext base
      rw [variants, noProfile, List.map_nil]
    simp [noVariants]

/-- How the client looks properties up in the answer of a repository over a store. -/
structure SecretsPrecedence (repository : VaultRepository) (query : RepositoryQuery)
    (store : String → Option Json) (answer : Environment) : Prop where
  /-- A property has the value in the first of the consulted keys whose secret has it. -/
  first : ∀ property, (ConfigData.assemble answer (Text.splitList query.profile)).get? property =
    ((repository.consulted query).findSome?
      (repository.secretValue? store query.label property)).map PropertyValue.raw
  /-- Those that name a requested profile are consulted first. -/
  named : ∀ key,
    isConsultedFirst (Text.splitList query.profile) key = true ↔
      NamesProfile (Text.splitList query.profile) key
  /-- A profile makes a pattern unless it is as long as a book. -/
  patterns : ∀ profile ∈ Text.splitList query.profile,
    profile.toList.length ≤ 300000 → Profile.MakesPattern profile
  /-- Where the shared name has no separators, these are the keys for a profile. -/
  ordered : IsUnseparated repository.settings.defaultKey →
    (∀ profile ∈ Text.splitList query.profile, Profile.MakesPattern profile) →
    repository.consulted query =
      ((repository.bases query).flatMap (variants query)).reverse ++
        (repository.bases query).reverse
  /-- With keys of a single name, or without profiles, this is the order of the repository. -/
  kept : IsUnseparated repository.settings.defaultKey →
    (∀ profile ∈ Text.splitList query.profile, Profile.MakesPattern profile) →
    ((∃ base, repository.bases query = [base]) ∨ Text.splitList query.profile = []) →
    repository.consulted query = repository.keys query

/-- Over a store there is an answer, and the client finds each property with the value of the first key
whose secret has it, where keys for a requested profile come before all others. -/
theorem precedence_fromSecrets {token : String} {store : String → Option Json}
    (isPlain : repository.IsPlain query) (serves : repository.operations.Serves token store)
    (session : VaultSession) :
    ∃ answer, (repository.findForToken query token session).outcome = .ok answer ∧
      repository.SecretsPrecedence query store answer := by
  refine ⟨_, repository.findForToken_of_serves serves query session, fun property => ?_,
    isConsultedFirst_iff isPlain.profiles, fun profile requested =>
      Profile.makesPattern_of_isWord (isPlain.profiles profile requested).1,
    isPlain.consulted_eq, isPlain.consulted_eq_keys⟩
  let answer := (Environment.empty query.application (statedProfiles query) query.label).addAll
    ((repository.keys query).filterMap (repository.source? store query.label))
  have noMarker : (ConfigData.markerLayer answer).get? property = none := rfl
  have sources : answer.propertySources =
      (repository.keys query).filterMap (repository.source? store query.label) := List.nil_append _
  have specific := repository.filter_sources store query.label (Text.splitList query.profile)
    (repository.keys query) id
  have general := repository.filter_sources store query.label (Text.splitList query.profile)
    (repository.keys query) not
  simp only [id] at specific
  rw [ConfigData.get?_assemble, noMarker, Option.or_none, sources, specific, general,
    ← List.filterMap_append, repository.findSome?_sources]
  rfl

end Plain

/-- A repository with default settings over a store. -/
def overStore (store : String → Option Json) : VaultRepository where
  settings := VaultSettings.defaults
  context := ⟨FileSystem.empty, [], 0, []⟩
  operations :=
    { read _ path _ := .ok (store path)
      login _ _ _ _ := .ok ""
      fetch _ _ := .ok "" }

theorem overStore_serves (store : String → Option Json) (token : String) :
    (overStore store).operations.Serves token store :=
  fun _ _ => rfl

/-- A secret of an application, and one of the same application for a profile. -/
def applicationSecrets (path : String) : Option Json :=
  if path = "secret/app,dev" then some (.object [("a", .string "dev")])
  else if path = "secret/app" then some (.object [("a", .string "all"), ("b", .string "all")])
  else none

/-- The secret for the profile wins over the general one, which is looked up behind it. -/
theorem precedence_fromSecrets_profile :
    ∃ answer,
      ((overStore applicationSecrets).findForToken ⟨"app", "dev", none⟩ "s.root" .start).outcome =
        .ok answer ∧
      ((ConfigData.assemble answer ["dev"]).get? "a").bind PropertyValue.asString? = some "dev" ∧
      ((ConfigData.assemble answer ["dev"]).get? "b").bind PropertyValue.asString? = some "all" := by
  have isPlain : (overStore applicationSecrets).IsPlain ⟨"app", "dev", none⟩ :=
    ⟨rfl, by decide +kernel, by decide +kernel⟩
  obtain ⟨answer, answered, precedence⟩ := precedence_fromSecrets isPlain
    (overStore_serves applicationSecrets "s.root") .start
  have asked : Text.splitList "dev" = ["dev"] := by decide +kernel
  have areShort : ∀ profile ∈ Text.splitList "dev", profile.toList.length ≤ 300000 := by
    decide +kernel
  have looksUp := precedence.first
  rw [asked, precedence.ordered (by decide) fun profile requested =>
    precedence.patterns profile requested (areShort profile requested)] at looksUp
  refine ⟨answer, answered, ?_, ?_⟩
  · rw [looksUp "a"]
    decide +kernel
  · rw [looksUp "b"]
    decide +kernel

/-- A secret of an application, and one of all applications for a profile. -/
def contestedSecrets (path : String) : Option Json :=
  if path = "secret/app" then some (.object [("k", .string "own")])
  else if path = "secret/application,dev" then some (.object [("k", .string "shared")])
  else none

/-- The secret of the application comes first among the keys, but the client finds the one that all
applications share for the profile. -/
theorem precedence_notOfKeys :
    ∃ answer, (overStore contestedSecrets).IsPlain ⟨"app", "dev", none⟩ ∧
      (overStore contestedSecrets).keys ⟨"app", "dev", none⟩ =
        ["app,dev", "app", "application,dev", "application"] ∧
      ((overStore contestedSecrets).findForToken ⟨"app", "dev", none⟩ "s.root" .start).outcome =
        .ok answer ∧
      (((overStore contestedSecrets).keys ⟨"app", "dev", none⟩).findSome?
        ((overStore contestedSecrets).secretValue? contestedSecrets none "k")).bind Json.asString? =
          some "own" ∧
      ((ConfigData.assemble answer (Text.splitList "dev")).get? "k").bind PropertyValue.asString? =
        some "shared" :=
  ⟨_, ⟨rfl, by decide +kernel, by decide +kernel⟩, by decide +kernel,
    (overStore contestedSecrets).findForToken_of_serves
      (overStore_serves contestedSecrets "s.root") ⟨"app", "dev", none⟩ .start,
    by decide +kernel, by decide +kernel⟩

end VaultRepository

end RemoteConfig
