import RemoteConfig.Proofs.Client.FirstRequest
import RemoteConfig.Proofs.Client.Isolation
import RemoteConfig.Proofs.File.NameLength
import RemoteConfig.Proofs.Text.Base64

/-!
Contract: configured servers in place of discovered ones that are missing.

Owns:
- the authorization that a credential makes, and when user and password make another one once texts
  without text are dropped;
- requests as their locator and shared headers with an authorization behind them;
- `fallback_faithful_iff`: without discovered servers a resolution is the one without discovery
  exactly when the configured credential makes the same authorization as it stands.

Does not own: locators with user and password.
-/

namespace RemoteConfig

/-! ### Authorizations -/

namespace ConfigRequest

/-- The authorization that user and password make, whichever server they are for. -/
def authorize (settings : ClientSettings) (username password : Option String) :
    Except FetchError (Option String) :=
  if password.isSome && (customAuthorization? settings).isSome then
    .error (.configuration .passwordAndAuthorization)
  else .ok (authorizationOf? settings.headers username password)

theorem authorization_eq_authorize (settings : ClientSettings) (credentials : Credentials) :
    authorization settings credentials =
      authorize settings credentials.username credentials.password := by
  obtain ⟨uri, username, password⟩ := credentials
  unfold authorization authorize authorizationOf? customAuthorization?
  cases password <;> cases settings.headers.find? isAuthorization <;> rfl

theorem authorize_none (settings : ClientSettings) (username : Option String) :
    authorize settings username none = .ok (customAuthorization? settings) :=
  rfl

theorem authorize_some (settings : ClientSettings) (username : Option String) (password : String) :
    authorize settings username (some password) =
      if (customAuthorization? settings).isSome then
        .error (.configuration .passwordAndAuthorization)
      else .ok (some ("Basic " ++
        Base64.encodeText Base64.standard (username.getD "" ++ ":" ++ password))) := by
  cases custom : customAuthorization? settings <;> simp [authorize, custom, authorizationOf?]

theorem authorize_cases (settings : ClientSettings) (username password : Option String) :
    authorize settings username password = .error (.configuration .passwordAndAuthorization) ∨
      ∃ value, authorize settings username password = .ok value := by
  unfold authorize
  split
  · exact .inl rfl
  · exact .inr ⟨_, rfl⟩

/-- There is one reason only to refuse an authorization. -/
theorem authorize_eq_of_toOption {settings : ClientSettings}
    {username password otherName otherPassword : Option String}
    (same : (authorize settings username password).toOption =
      (authorize settings otherName otherPassword).toOption) :
    authorize settings username password = authorize settings otherName otherPassword := by
  rcases authorize_cases settings username password with refused | ⟨value, made⟩ <;>
    rcases authorize_cases settings otherName otherPassword with isRefused | ⟨other, isOther⟩
  · rw [refused, isRefused]
  · simp [refused, isOther, Except.toOption] at same
  · simp [made, isRefused, Except.toOption] at same
  · simpa [made, isOther, Except.toOption] using same

end ConfigRequest

/-- Two users of one password are told apart by their authorizations if one has no name. -/
theorem Base64.encodeText_pair_ne {username : String} (named : username ≠ "") (password : String) :
    encodeText standard (username ++ ":" ++ password) ≠
      encodeText standard ("" ++ ":" ++ password) := by
  intro same
  have bytes := encode_injective (legible_forms standard (by simp)) same
  have lengths := congrArg List.length bytes
  have positive : 0 < username.toList.length := by
    rw [List.length_pos_iff]
    simpa using named
  have long := Utf8.length_le_encode username
  have noName : Utf8.encodeChars "".toList = [] := rfl
  unfold Utf8.encode at lengths long
  unfold Utf8.encodeChars at lengths long noName
  simp only [String.toList_append, List.flatMap_append, List.length_append, noName,
    List.length_nil] at lengths
  omega

namespace ClientSettings

/-- User and password make the same authorization as they stand and with texts without text dropped:
there is no password, or one with text, and its user is without a name, has one with text, or does
not count next to a custom authorization. -/
def SharesFaithfully (settings : ClientSettings) : Prop :=
  ∀ password, settings.password = some password → Text.hasText password = true ∧
    ((ConfigRequest.customAuthorization? settings).isSome = true ∨ settings.username = "" ∨
      Text.hasText settings.username = true)

theorem authorize_shared_iff (settings : ClientSettings) :
    ConfigRequest.authorize settings (some settings.username) settings.password =
        ConfigRequest.authorize settings (Text.nonBlank (some settings.username))
          (Text.nonBlank settings.password) ↔
      settings.SharesFaithfully := by
  unfold SharesFaithfully
  cases password : settings.password with
  | none => simp [Text.nonBlank, ConfigRequest.authorize_none]
  | some secret =>
      cases text : Text.hasText secret with
      | false =>
          -- A password without text still counts as it stands, and is none once it is dropped.
          rw [Text.nonBlank_of_blank text, ConfigRequest.authorize_none,
            ConfigRequest.authorize_some]
          cases ConfigRequest.customAuthorization? settings <;> simp [text]
      | true =>
          rw [Text.nonBlank_of_hasText text, ConfigRequest.authorize_some,
            ConfigRequest.authorize_some]
          cases ConfigRequest.customAuthorization? settings with
          | some value => simp [text]
          | none =>
              cases named : Text.hasText settings.username with
              | true => simp [Text.nonBlank_of_hasText named, text]
              | false =>
                  rw [Text.nonBlank_of_blank named]
                  by_cases empty : settings.username = ""
                  · simp [empty, text]
                  · have apart := Base64.encodeText_pair_ne empty secret
                    simpa [empty, text] using apart

end ClientSettings

/-! ### Requests without their authorization -/

namespace Walk

variable {resource : ConfigResource} {context : LoadContext} {position : Nat × Nat}

/-- What a request takes besides its authorization: the shared headers and its locator. -/
def addressed (resource : ConfigResource) (context : LoadContext) (position : Nat × Nat) :
    Except FetchError (List (String × String) × Url) :=
  (ConfigRequest.sharedHeaders resource.settings context.state).bind fun shared =>
    (((servers resource context).credentials position.2).map Credentials.uri).bind fun base =>
      (ConfigRequest.environmentUrl base (labelQuery resource
        (resource.settings.candidateLabels.getD position.1 ""))).map fun url => (shared, url)

/-- The request with an authorization behind its shared headers. -/
def authorized (parts : List (String × String) × Url) (value : Option String) : ConfigRequest :=
  ⟨parts.2, parts.1 ++ value.toList.map fun value => (ConfigRequest.authorizationHeader, value)⟩

/-- A request is made of its shared headers, its locator and an authorization, in this order. -/
theorem planned_eq_bind {username password : Option String} (sameUser : ∀ credentials,
      (servers resource context).credentials position.2 = .ok credentials →
        credentials.username = username ∧ credentials.password = password) :
    planned resource context position =
      (addressed resource context position).bind fun parts =>
        (ConfigRequest.authorize resource.settings username password).map (authorized parts) := by
  unfold planned addressed ask
  cases ConfigRequest.sharedHeaders resource.settings context.state with
  | error error => rfl
  | ok shared =>
      cases found : (servers resource context).credentials position.2 with
      | error error => rfl
      | ok credentials =>
          obtain ⟨rfl, rfl⟩ := sameUser credentials found
          rw [← ConfigRequest.authorization_eq_authorize]
          show (ConfigRequest.environmentUrl credentials.uri _).bind _ =
            ((ConfigRequest.environmentUrl credentials.uri _).map _).bind _
          cases ConfigRequest.environmentUrl credentials.uri _ with
          | error error => rfl
          | ok url =>
              show (ConfigRequest.authorization resource.settings credentials).bind _ =
                (ConfigRequest.authorization resource.settings credentials).map _
              cases ConfigRequest.authorization resource.settings credentials <;> rfl

end Walk

/-- A locator without user and password goes with the given ones that have text. -/
theorem Credentials.ofUri_of_isBare {written : String} {url : Url}
    (parsed : Url.parse (Text.trim written) = .ok url) (bare : url.IsBare)
    (username password : Option String) :
    ofUri written username password =
      .ok ⟨url, Text.nonBlank username, Text.nonBlank password⟩ := by
  simp [ofUri, parsed, bare.1, bare.2]

/-! ### Configured servers in place of discovered ones -/

/-- The resource with its configured servers, whatever is discovered. -/
def ConfigResource.withoutDiscovery (resource : ConfigResource) : ConfigResource :=
  { resource with
    settings := { resource.settings with
      discovery := { resource.settings.discovery with enabled := false } } }

namespace Walk

/-- No configured locator has a user or a password. -/
def BareServers (resource : ConfigResource) : Prop :=
  ∀ written ∈ resource.settings.uris, ∀ url, Url.parse (Text.trim written) = .ok url → url.IsBare

theorem servers_withoutDiscovery (resource : ConfigResource) (context : LoadContext) :
    servers resource.withoutDiscovery context = .configured resource.withoutDiscovery.settings :=
  servers_of_static rfl context

theorem credentials_withoutDiscovery (resource : ConfigResource) (context : LoadContext)
    {server : Nat} (inRange : server < resource.settings.uris.length) :
    (servers resource.withoutDiscovery context).credentials server =
      Credentials.ofUri resource.settings.uris[server] (some resource.settings.username)
        resource.settings.password := by
  rw [servers_withoutDiscovery]
  simp [ServerTargets.credentials, ClientSettings.credentials, ConfigResource.withoutDiscovery,
    List.getElem?_eq_getElem inRange]

section Fallback

variable {resource : ConfigResource} {context : LoadContext} {position : Nat × Nat}
  (discovers : resource.settings.discovery.enabled = true) (nothing : context.discovered = none)

include discovers nothing

theorem servers_fallback : servers resource context = .discovered ⟨resource.settings.uris,
    some resource.settings.username, resource.settings.password⟩ := by
  simp [servers, Resolve.targets, discovers, nothing]

theorem route_fallback :
    route resource.withoutDiscovery context = route resource context := by
  unfold route
  rw [servers_withoutDiscovery, servers_fallback discovers nothing]
  rfl

/-- Under discovery that found nothing the credential counts as it stands. -/
theorem planned_fallback (position : Nat × Nat) :
    planned resource context position = (addressed resource context position).bind fun parts =>
      (ConfigRequest.authorize resource.settings (some resource.settings.username)
        resource.settings.password).map (authorized parts) := by
  apply planned_eq_bind
  intro credentials found
  rw [servers_fallback discovers nothing] at found
  obtain ⟨_, _, _, _, rfl⟩ := ServerTargets.credentials_discovered found
  exact ⟨rfl, rfl⟩

variable (bare : BareServers resource)

include bare

theorem bases_fallback {server : Nat} (inRange : server < resource.settings.uris.length) :
    ((servers resource.withoutDiscovery context).credentials server).map Credentials.uri =
      ((servers resource context).credentials server).map Credentials.uri := by
  rw [credentials_withoutDiscovery resource context inRange, servers_fallback discovers nothing]
  simp only [ServerTargets.credentials, List.getElem?_eq_getElem inRange]
  cases parsed : Url.parse (Text.trim resource.settings.uris[server]) with
  | error fault => simp [Credentials.ofUri, parsed, Except.map]
  | ok url =>
      have isBare := bare _ (List.getElem_mem inRange) url parsed
      rw [Credentials.ofUri_of_isBare parsed isBare, Credentials.ofUri_of_isBare parsed isBare]
      rfl

/-- Without discovery only texts with text count in the credential; all else is the same. -/
theorem planned_withoutDiscovery (inRange : position.2 < resource.settings.uris.length) :
    planned resource.withoutDiscovery context position =
      (addressed resource context position).bind fun parts =>
        (ConfigRequest.authorize resource.settings
          (Text.nonBlank (some resource.settings.username))
          (Text.nonBlank resource.settings.password)).map (authorized parts) := by
  have sameParts : addressed resource.withoutDiscovery context position =
      addressed resource context position := by
    unfold addressed
    rw [bases_fallback discovers nothing bare inRange]
    rfl
  rw [← sameParts]
  apply planned_eq_bind
  intro credentials found
  rw [credentials_withoutDiscovery resource context inRange] at found
  obtain ⟨url, parsed, _⟩ := Credentials.parse_of_ofUri found
  have isBare := bare _ (List.getElem_mem inRange) url parsed
  rw [Credentials.ofUri_of_isBare parsed isBare] at found
  cases found
  exact ⟨rfl, rfl⟩

omit bare in
theorem inRange_of_mem_route (member : position ∈ route resource context) :
    position.2 < resource.settings.uris.length := by
  unfold route positions at member
  simp only [List.mem_flatMap, List.mem_map, List.mem_range] at member
  obtain ⟨_, _, server, below, rfl⟩ := member
  rw [servers_fallback discovers nothing] at below
  exact below

omit bare in
theorem inRange_of_addressed {parts : List (String × String) × Url}
    (isAddressed : addressed resource context position = .ok parts) :
    position.2 < resource.settings.uris.length := by
  obtain ⟨_, _, located⟩ := bind_eq_ok isAddressed
  obtain ⟨_, based, _⟩ := bind_eq_ok located
  obtain ⟨credentials, found, _⟩ := map_eq_ok based
  rw [servers_fallback discovers nothing] at found
  obtain ⟨_, _, stands, _⟩ := ServerTargets.credentials_discovered found
  exact (List.getElem?_eq_some_iff.mp stands).1

omit bare in
/-- Where the walks over the places are the same, the searches are. -/
theorem summary_fallback_of_along {transport : Transport} {history : List ConfigRequest}
    (same : along transport resource.settings.strategy history
        ((route resource context).map (placeAt resource context)) =
      along transport resource.settings.strategy history
        ((route resource context).map (placeAt resource.withoutDiscovery context))) :
    summary (Resolve.locate transport resource context history) =
      summary (Resolve.locate transport resource.withoutDiscovery context history) := by
  have sameHeaders : ConfigRequest.sharedHeaders resource.withoutDiscovery.settings context.state =
      ConfigRequest.sharedHeaders resource.settings context.state := rfl
  cases headers : ConfigRequest.sharedHeaders resource.settings context.state with
  | error error =>
      rw [headers] at sameHeaders
      obtain ⟨noRequests, fails⟩ := locate_of_headers_error transport history headers
      obtain ⟨noOthers, alsoFails⟩ := locate_of_headers_error transport history sameHeaders
      simp [summary, noRequests, fails, noOthers, alsoFails]
  | ok shared =>
      rw [headers] at sameHeaders
      rw [locate_eq_along, locate_eq_along, places_eq_map headers, places_eq_map sameHeaders,
        route_fallback discovers nothing, same]
      rfl

/-- With a credential that is shared faithfully, all places are the same. -/
theorem placeAt_fallback (faithful : resource.settings.SharesFaithfully)
    (member : position ∈ route resource context) :
    placeAt resource context position = placeAt resource.withoutDiscovery context position := by
  have inRange := inRange_of_mem_route discovers nothing member
  have sameLast : atLastServer resource context position =
      atLastServer resource.withoutDiscovery context position := by
    unfold atLastServer
    rw [servers_withoutDiscovery, servers_fallback discovers nothing]
    rfl
  unfold placeAt
  rw [sameLast, planned_fallback discovers nothing,
    planned_withoutDiscovery discovers nothing bare inRange,
    (ClientSettings.authorize_shared_iff resource.settings).mpr faithful]

/-- Where the first request fails before its authorization, no walk makes a request. -/
theorem along_fallback_of_error {error : FetchError}
    (fails : addressed resource context (0, 0) = .error error) (transport : Transport)
    (history : List ConfigRequest) :
    along transport resource.settings.strategy history
        ((route resource context).map (placeAt resource context)) =
      along transport resource.settings.strategy history
        ((route resource context).map (placeAt resource.withoutDiscovery context)) := by
  rcases route_cases resource context with ⟨noPosition, _⟩ | ⟨others, isFirst⟩
  · rw [noPosition]
    rfl
  · have member : ((0, 0) : Nat × Nat) ∈ route resource context := by simp [isFirst]
    have inRange := inRange_of_mem_route discovers nothing member
    have here : (placeAt resource context (0, 0)).request = .error error := by
      rw [placeAt, planned_fallback discovers nothing, fails]
      rfl
    have there : (placeAt resource.withoutDiscovery context (0, 0)).request = .error error := by
      rw [placeAt, planned_withoutDiscovery discovers nothing bare inRange, fails]
      rfl
    rw [isFirst, List.map_cons, List.map_cons, along_cons_error here, along_cons_error there]

end Fallback

theorem authorized_injective {parts : List (String × String) × Url} {value other : Option String}
    (same : authorized parts value = authorized parts other) : value = other := by
  have headers := congrArg ConfigRequest.headers same
  cases value <;> cases other <;> simp_all [authorized]

theorem toOption_eq_of_authorized {parts : List (String × String) × Url}
    {first second : Except FetchError (Option String)}
    (same : (first.map (authorized parts)).toOption = (second.map (authorized parts)).toOption) :
    first.toOption = second.toOption := by
  cases first with
  | error _ => cases second <;> simp_all [Except.map, Except.toOption]
  | ok value =>
      cases second with
      | error _ => simp [Except.map, Except.toOption] at same
      | ok other =>
          simp only [Except.map, Except.toOption, Option.some.injEq] at same ⊢
          exact authorized_injective same

/-- A discovery that found nothing is faithful: the resolution makes the same requests with the same
end as without discovery, exactly when the configured credential is shared faithfully, if the first
request comes to its authorization at all. -/
theorem fallback_faithful_iff {resource : ConfigResource} {context : LoadContext}
    (discovers : resource.settings.discovery.enabled = true) (nothing : context.discovered = none)
    (bare : BareServers resource) (loader : Loader) (history : List ConfigRequest) :
    ((loader.resolve history ⟨resource, context⟩).requests =
          (loader.resolve history ⟨resource.withoutDiscovery, context⟩).requests ∧
        (loader.resolve history ⟨resource, context⟩).outcome =
          (loader.resolve history ⟨resource.withoutDiscovery, context⟩).outcome) ↔
      ((∃ parts, addressed resource context (0, 0) = .ok parts) →
        resource.settings.SharesFaithfully) := by
  rw [loader.resolve_requests, loader.resolve_requests, loader.resolve_outcome,
    loader.resolve_outcome]
  constructor
  · rintro ⟨sameRequests, _⟩ ⟨parts, isAddressed⟩
    have inRange := inRange_of_addressed discovers nothing isAddressed
    have first := congrArg List.head? sameRequests
    rw [head?_locate, head?_locate, planned_fallback discovers nothing,
      planned_withoutDiscovery discovers nothing bare inRange, isAddressed] at first
    refine (ClientSettings.authorize_shared_iff resource.settings).mp ?_
    apply ConfigRequest.authorize_eq_of_toOption
    exact toOption_eq_of_authorized first
  · intro faithful
    have same : summary (Resolve.locate loader.transport resource context history) =
        summary (Resolve.locate loader.transport resource.withoutDiscovery context history) := by
      apply summary_fallback_of_along discovers nothing
      cases isAddressed : addressed resource context (0, 0) with
      | error error => exact along_fallback_of_error discovers nothing bare isAddressed _ _
      | ok parts =>
          congr 1
          apply List.map_congr_left
          intro position member
          exact placeAt_fallback discovers nothing bare (faithful ⟨parts, isAddressed⟩) member
    refine ⟨congrArg Prod.fst same, ?_⟩
    have sameOutcome := congrArg Prod.snd same
    simp only [summary] at sameOutcome
    rw [sameOutcome]
    rfl

/-- A resource with one server whose credential is shared when nothing is discovered. -/
def sharing (password : String) : ConfigResource :=
  .required { ClientSettings.defaults with
    uris := ["http://[::1]"]
    password := some password
    discovery := ⟨true, "configserver"⟩ } []

/-- A password with text is shared faithfully, and an empty one is not. -/
theorem fallback_faithful_sharing :
    ((unknowing.resolve [] ⟨sharing "pw", ⟨none, none⟩⟩).requests =
        (unknowing.resolve [] ⟨(sharing "pw").withoutDiscovery, ⟨none, none⟩⟩).requests ∧
      (unknowing.resolve [] ⟨sharing "pw", ⟨none, none⟩⟩).outcome =
        (unknowing.resolve [] ⟨(sharing "pw").withoutDiscovery, ⟨none, none⟩⟩).outcome) ∧
    ¬ ((unknowing.resolve [] ⟨sharing "", ⟨none, none⟩⟩).requests =
        (unknowing.resolve [] ⟨(sharing "").withoutDiscovery, ⟨none, none⟩⟩).requests ∧
      (unknowing.resolve [] ⟨sharing "", ⟨none, none⟩⟩).outcome =
        (unknowing.resolve [] ⟨(sharing "").withoutDiscovery, ⟨none, none⟩⟩).outcome) := by
  have read : (Url.parse (Text.trim "http://[::1]")).toOption.map
      (fun url => (url.username, url.password)) = some ("", none) := by decide +kernel
  have bare (password : String) : BareServers (sharing password) := by
    intro written member url parsed
    rw [List.mem_singleton.mp member] at parsed
    simpa [parsed, Except.toOption, Url.IsBare] using read
  constructor
  · apply (fallback_faithful_iff rfl rfl (bare "pw") unknowing []).mpr
    intro _ password isPassword
    cases isPassword
    exact ⟨by decide, .inr (.inr (by decide))⟩
  · intro same
    have faithful := (fallback_faithful_iff rfl rfl (bare "") unknowing []).mp same
    have isAddressed : (addressed (sharing "") ⟨none, none⟩ (0, 0)).toOption.isSome = true := by
      decide +kernel
    cases parts : addressed (sharing "") ⟨none, none⟩ (0, 0) with
    | error error => simp [parts, Except.toOption] at isAddressed
    | ok found => exact absurd (faithful ⟨found, parts⟩ "" rfl).1 (by decide)

/-- An empty password is sent when nothing is discovered, and is none without discovery. -/
theorem fallback_sendsEmptyPassword :
    ((unknowing.resolve [] ⟨sharing "", ⟨none, none⟩⟩).requests.map
        ConfigRequest.authorizations) = [["Basic dXNlcjo="]] ∧
      ((unknowing.resolve [] ⟨(sharing "").withoutDiscovery, ⟨none, none⟩⟩).requests.map
        ConfigRequest.authorizations) = [[]] := by
  decide +kernel

end Walk

end RemoteConfig
