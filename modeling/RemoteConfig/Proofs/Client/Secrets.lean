import Mathlib.Data.List.Forall2
import RemoteConfig.Proofs.Client.Isolation

/-!
Contract: settings that differ in secrets, and what such settings ask of their servers.

Owns:
- settings that differ in secrets only: password, token, and passwords inside of locators;
- two runs of a step of preparing a request: they succeed alike or fail alike;
- the places of a resolution under such settings, which are alike one by one.

Does not own: what is sent to the servers, and what is shown.
-/

namespace RemoteConfig

/-! ### Settings that differ in secrets -/

/-- A secret is the same in both settings, or both have a usable one. -/
def SecretAlike (usable : String → Bool) (first second : Option String) : Prop :=
  first = second ∨
    ∃ one other, first = some one ∧ second = some other ∧ usable one = true ∧ usable other = true

/-- A written locator but for the text of its password, and whether it has one. -/
def Url.exceptPassword? (written : String) : Option (Url × Bool) :=
  (Url.parse (Text.trim written)).toOption.map fun url =>
    ({ url with password := none }, url.password.isSome)

/-- Two written locators differ in a password that both have, or neither of them is a locator. -/
def Url.AlikeWritten (first second : String) : Prop :=
  exceptPassword? first = exceptPassword? second

instance (first second : String) : Decidable (Url.AlikeWritten first second) :=
  inferInstanceAs (Decidable (_ = _))

/-- May a token be sent? -/
def ConfigRequest.isToken (token : String) : Bool :=
  Text.hasText token && Header.isValidValue token

/-- The resource with other servers and other secrets. -/
def ConfigResource.withSecrets (resource : ConfigResource) (uris : List String)
    (password token : Option String) : ConfigResource :=
  { resource with
    settings := { resource.settings with uris := uris, password := password, token := token } }

/-- Other servers and secrets differ from those of a resource in secret text only. -/
structure ConfigResource.SecretsAlike (resource : ConfigResource) (uris : List String)
    (password token : Option String) : Prop where
  uris : List.Forall₂ Url.AlikeWritten resource.settings.uris uris
  password : SecretAlike Text.hasText resource.settings.password password
  token : SecretAlike ConfigRequest.isToken resource.settings.token token

namespace Walk

/-! ### Two runs of one step -/

/-- Two written locators stand at the same position of two lists. -/
def StandAlike (uris others : List String) (first second : String) : Prop :=
  ∃ server : Nat, uris[server]? = some first ∧ others[server]? = some second

/-- Two runs of a step both succeed, with related results, or they fail in the same way, or both
fail at written locators of one position that cannot be read. -/
inductive Alike (uris others : List String) {α : Type} (related : α → α → Prop) :
    Except FetchError α → Except FetchError α → Prop where
  | reached {one other : α} (isRelated : related one other) :
      Alike uris others related (.ok one) (.ok other)
  | failed (error : FetchError) : Alike uris others related (.error error) (.error error)
  | unreadable {first second : String} {fault otherFault : UrlError}
      (stand : StandAlike uris others first second)
      (here : Url.parse (Text.trim first) = .error fault)
      (there : Url.parse (Text.trim second) = .error otherFault) :
      Alike uris others related (.error (.invalidUri first fault.message))
        (.error (.invalidUri second otherFault.message))

section Steps

variable {uris others : List String} {α β : Type} {related : α → α → Prop}
  {relatedAfter : β → β → Prop}

theorem Alike.refl (reflexive : ∀ result, related result result) (outcome : Except FetchError α) :
    Alike uris others related outcome outcome := by
  cases outcome with
  | error error => exact .failed error
  | ok result => exact .reached (reflexive result)

theorem Alike.bind {first second : Except FetchError α} {step otherStep : α → Except FetchError β}
    (alike : Alike uris others related first second)
    (steps : ∀ one other, related one other →
      Alike uris others relatedAfter (step one) (otherStep other)) :
    Alike uris others relatedAfter (first.bind step) (second.bind otherStep) := by
  cases alike with
  | reached isRelated => exact steps _ _ isRelated
  | failed error => exact .failed error
  | unreadable stand here there => exact .unreadable stand here there

theorem Alike.map {first second : Except FetchError α} {change otherChange : α → β}
    (alike : Alike uris others related first second)
    (changes : ∀ one other, related one other → relatedAfter (change one) (otherChange other)) :
    Alike uris others relatedAfter (first.map change) (second.map otherChange) := by
  cases alike with
  | reached isRelated => exact .reached (changes _ _ isRelated)
  | failed error => exact .failed error
  | unreadable stand here there => exact .unreadable stand here there

end Steps

/-- Two credentials have the same locator, and both a password or none. -/
def SameServer (first second : Credentials) : Prop :=
  first.uri = second.uri ∧ first.password.isSome = second.password.isSome

/-- Two requests go to the same place. -/
def SameUrl (first second : ConfigRequest) : Prop :=
  first.url = second.url

end Walk

open Walk

theorem SecretAlike.isSome {usable : String → Bool} {first second : Option String}
    (alike : SecretAlike usable first second) : first.isSome = second.isSome := by
  rcases alike with rfl | ⟨_, _, rfl, rfl, _⟩ <;> rfl

theorem SecretAlike.isSome_nonBlank {first second : Option String}
    (alike : SecretAlike Text.hasText first second) :
    (Text.nonBlank first).isSome = (Text.nonBlank second).isSome := by
  rcases alike with rfl | ⟨one, other, rfl, rfl, isText, otherIsText⟩
  · rfl
  · simp [Text.nonBlank, isText, otherIsText]

variable {uris others : List String}

theorem Credentials.ofUri_alike {first second : String} (stand : StandAlike uris others first second)
    (written : Url.AlikeWritten first second) (username : Option String)
    {password otherPassword : Option String}
    (secret : SecretAlike Text.hasText password otherPassword) :
    Alike uris others SameServer (ofUri first username password)
      (ofUri second username otherPassword) := by
  unfold Url.AlikeWritten Url.exceptPassword? at written
  cases here : Url.parse (Text.trim first) with
  | error fault =>
      cases there : Url.parse (Text.trim second) with
      | error otherFault =>
          rw [ofUri, ofUri, here, there]
          exact .unreadable stand here there
      | ok other => simp [here, there, Except.toOption] at written
  | ok one =>
      cases there : Url.parse (Text.trim second) with
      | error otherFault => simp [here, there, Except.toOption] at written
      | ok other =>
          simp only [here, there, Except.toOption, Option.map_some, Option.some.injEq, Prod.mk.injEq]
            at written
          obtain ⟨same, both⟩ := written
          obtain ⟨credentials, found, uri, isPassword⟩ := ofUri_of_parse here username password
          obtain ⟨others, otherFound, otherUri, otherIsPassword⟩ :=
            ofUri_of_parse there username otherPassword
          rw [found, otherFound]
          refine .reached ⟨?_, ?_⟩
          · rw [uri, otherUri]
            exact congrArg (fun url => { url with username := "" }) same
          · -- A given password hides the one in the locator only when it has text.
            have given := secret.isSome_nonBlank
            simp only [isPassword, otherIsPassword, Option.orElse_eq_orElse, Option.orElse_eq_or,
              Option.isSome_or, given, both]

namespace ConfigRequest

theorem authorization_alike {settings other : ClientSettings}
    (headers : other.headers = settings.headers)
    {first second : Credentials} (same : first.password.isSome = second.password.isSome) :
    Alike uris others (fun _ _ => True) (authorization settings first)
      (authorization other second) := by
  unfold authorization customAuthorization?
  rw [headers]
  -- A password and a custom authorization exclude each other whatever their texts are.
  cases here : first.password with
  | none =>
      have there : second.password = none := by simpa [here] using same
      rw [there]
      exact .refl (fun _ => trivial) _
  | some password =>
      obtain ⟨otherPassword, there⟩ := Option.isSome_iff_exists.mp (by simpa [here] using same.symm)
      rw [there]
      cases (settings.headers.find? isAuthorization).map Prod.snd with
      | none => exact .reached trivial
      | some custom => exact .failed _

theorem build_alike {settings other : ClientSettings} (headers : other.headers = settings.headers)
    (shared otherShared : List (String × String)) {first second : Credentials}
    (same : SameServer first second) (query : EnvironmentQuery) :
    Alike uris others SameUrl (build settings shared first query)
      (build other otherShared second query) := by
  have located : Alike uris others (· = ·) (environmentUrl first.uri query)
      (environmentUrl second.uri query) := by
    rw [same.1]
    exact .refl (fun _ => rfl) _
  refine located.bind ?_
  rintro url _ rfl
  exact (authorization_alike headers same.2).bind fun _ _ _ => .reached rfl

theorem checkHeader_token {token : String} (isToken : isToken token = true) :
    checkHeader (tokenHeader, token) = .ok () := by
  have isName : Header.isValidName tokenHeader = true := by decide
  have isValue : Header.isValidValue token = true := by
    simp only [ConfigRequest.isToken, Bool.and_eq_true] at isToken
    exact isToken.2
  simp [checkHeader, isName, isValue]

theorem nonBlank_token {token : String} (isToken : isToken token = true) :
    Text.nonBlank (some token) = some token := by
  simp only [ConfigRequest.isToken, Bool.and_eq_true] at isToken
  exact Option.filter_eq_some_iff.mpr ⟨rfl, isToken.1⟩

/-- Tokens that may be sent pass the checks of the headers alike. -/
theorem checks_alike {settings : ClientSettings} {token : Option String}
    (secret : SecretAlike isToken settings.token token) (state : Option String) :
    forM (builtInHeaders settings state) checkHeader =
      forM (builtInHeaders { settings with token := token } state) checkHeader := by
  rcases secret with same | ⟨one, other, here, there, isToken, otherIsToken⟩
  · rw [← same]
  · unfold builtInHeaders
    rw [here, there, nonBlank_token isToken, nonBlank_token otherIsToken]
    simp [checkHeader_token isToken, checkHeader_token otherIsToken]

theorem sharedHeaders_alike {settings : ClientSettings} {token : Option String}
    (secret : SecretAlike isToken settings.token token) (state : Option String) :
    Alike uris others (fun _ _ => True) (sharedHeaders settings state)
      (sharedHeaders { settings with token := token } state) := by
  have checked : Alike uris others (· = ·)
      (forM (builtInHeaders settings state ++ customHeaders settings) checkHeader)
      (forM (builtInHeaders { settings with token := token } state ++ customHeaders settings)
        checkHeader) := by
    rw [List.forM_append, List.forM_append, checks_alike secret]
    exact .refl (fun _ => rfl) _
  exact checked.bind fun _ _ _ => .reached trivial

end ConfigRequest

namespace Walk

/-! ### The places of two runs -/

section Places

variable {resource : ConfigResource} {password token : Option String}

/-- Both resources have the discovered servers, or each has its own ones, under a shared credential or
with a credential each. -/
theorem servers_withSecrets (resource : ConfigResource) (uris : List String)
    (password token : Option String) (context : LoadContext) :
    (servers (resource.withSecrets uris password token) context = servers resource context ∧
      ∃ instances, servers resource context = .discovered instances) ∨
    (servers (resource.withSecrets uris password token) context =
        .discovered ⟨uris, some resource.settings.username, password⟩ ∧
      servers resource context =
        .discovered ⟨resource.settings.uris, some resource.settings.username,
          resource.settings.password⟩) ∨
    (servers (resource.withSecrets uris password token) context =
        .configured (resource.withSecrets uris password token).settings ∧
      servers resource context = .configured resource.settings) := by
  cases enabled : resource.settings.discovery.enabled with
  | false =>
      refine .inr (.inr ⟨?_, servers_of_static enabled context⟩)
      have otherStatic :
          (resource.withSecrets uris password token).settings.discovery.enabled = false := enabled
      exact servers_of_static otherStatic context
  | true =>
      cases found : context.discovered with
      | none =>
          refine .inr (.inl ?_)
          simp [servers, Resolve.targets, ConfigResource.withSecrets, enabled, found]
      | some instances =>
          refine .inl ?_
          simp [servers, Resolve.targets, ConfigResource.withSecrets, enabled, found]

theorem length_servers_withSecrets (secrets : resource.SecretsAlike uris password token)
    (context : LoadContext) :
    (servers (resource.withSecrets uris password token) context).length =
      (servers resource context).length := by
  rcases servers_withSecrets resource uris password token context with
    ⟨same, _⟩ | ⟨there, here⟩ | ⟨there, here⟩
  · rw [same]
  · rw [here, there]
    exact secrets.uris.length_eq.symm
  · rw [here, there]
    exact secrets.uris.length_eq.symm

/-- The locators at a position are alike, or neither list has one. -/
theorem written_alike {others : List String} (alike : List.Forall₂ Url.AlikeWritten uris others)
    (server : Nat) :
    (uris[server]? = none ∧ others[server]? = none) ∨
      ∃ first second, uris[server]? = some first ∧ others[server]? = some second ∧
        StandAlike uris others first second ∧ Url.AlikeWritten first second := by
  have lengths := alike.length_eq
  by_cases below : server < uris.length
  · have otherBelow : server < others.length := by omega
    have here := List.getElem?_eq_getElem below
    have there := List.getElem?_eq_getElem otherBelow
    exact .inr ⟨_, _, here, there, ⟨server, here, there⟩, alike.get below otherBelow⟩
  · exact .inl ⟨List.getElem?_eq_none (by omega), List.getElem?_eq_none (by omega)⟩

theorem credentials_alike (secrets : resource.SecretsAlike uris password token)
    (context : LoadContext) (server : Nat) :
    Alike resource.settings.uris uris SameServer ((servers resource context).credentials server)
      ((servers (resource.withSecrets uris password token) context).credentials server) := by
  rcases servers_withSecrets resource uris password token context with
    ⟨same, _⟩ | ⟨there, here⟩ | ⟨there, here⟩
  · rw [same]
    exact .refl (fun _ => ⟨rfl, rfl⟩) _
  · rw [here, there]
    simp only [ServerTargets.credentials]
    rcases written_alike secrets.uris server with
      ⟨none, otherNone⟩ | ⟨_, _, some, otherSome, stand, alike⟩
    · rw [none, otherNone]
      exact .failed _
    · rw [some, otherSome]
      exact (Credentials.ofUri_alike stand alike none (.inl rfl)).map fun _ _ same =>
        ⟨same.1, secrets.password.isSome⟩
  · rw [here, there]
    simp only [ServerTargets.credentials, ClientSettings.credentials, ConfigResource.withSecrets]
    rcases written_alike secrets.uris server with
      ⟨none, otherNone⟩ | ⟨_, _, some, otherSome, stand, alike⟩
    · rw [none, otherNone, secrets.uris.length_eq]
      exact .failed _
    · rw [some, otherSome]
      exact Credentials.ofUri_alike stand alike _ secrets.password

/-- Two places are alike: the same servers follow, and the requests there go to the same place. -/
structure PlaceAlike (uris others : List String) (first second : Place) : Prop where
  isLast : first.isLast = second.isLast
  request : Alike uris others SameUrl first.request second.request

theorem labelPlaces_alike (secrets : resource.SecretsAlike uris password token)
    (context : LoadContext) (query : EnvironmentQuery) :
    List.Forall₂ (PlaceAlike resource.settings.uris uris)
      (labelPlaces resource.settings (servers resource context) query context.state)
      (labelPlaces (resource.withSecrets uris password token).settings
        (servers (resource.withSecrets uris password token) context) query context.state) := by
  have headers : Alike resource.settings.uris uris (fun _ _ => True)
      (ConfigRequest.sharedHeaders resource.settings context.state)
      (ConfigRequest.sharedHeaders (resource.withSecrets uris password token).settings
        context.state) :=
    ConfigRequest.sharedHeaders_alike secrets.token context.state
  unfold labelPlaces
  generalize ConfigRequest.sharedHeaders resource.settings context.state = here,
    ConfigRequest.sharedHeaders (resource.withSecrets uris password token).settings context.state =
      there at headers
  cases headers with
  | reached _ =>
      rw [length_servers_withSecrets secrets, List.forall₂_map_left_iff,
        List.forall₂_map_right_iff, List.forall₂_same]
      intro server _
      refine ⟨rfl, ?_⟩
      exact (credentials_alike secrets context server).bind fun _ _ same =>
        ConfigRequest.build_alike rfl _ _ same query
  | failed error => exact .cons ⟨rfl, .failed error⟩ .nil
  | unreadable stand here there => exact .cons ⟨rfl, .unreadable stand here there⟩ .nil

theorem places_alike (secrets : resource.SecretsAlike uris password token) (context : LoadContext)
    (labels : List String) :
    List.Forall₂ (PlaceAlike resource.settings.uris uris) (places resource context labels)
      (places (resource.withSecrets uris password token) context labels) := by
  induction labels with
  | nil => exact .nil
  | cons label others inductionHypothesis =>
      rw [places_cons, places_cons]
      exact List.rel_append (labelPlaces_alike secrets context _) inductionHypothesis

end Places

end Walk

end RemoteConfig
