import RemoteConfig.Proofs.Client.LabelOrder
import RemoteConfig.Proofs.Url.Userinfo

/-!
Contract: which request carries whose credentials.

Owns:
- the locator and the password that a written locator stands for;
- what the requests at a position of a resolution depend on;
- `resolution_isolatesCredentials`: no locator of a request carries user or password, the credentials
  of one configured server reach no other one, and discovered servers share one authorization.

Does not own: which positions a resolution comes to.
-/

namespace RemoteConfig

/-- Two written locators differ in user and password at most, or neither of them is a locator. -/
def Url.SameServer (first second : String) : Prop :=
  (Url.parse (Text.trim first)).toOption.map Url.withoutUserinfo =
    (Url.parse (Text.trim second)).toOption.map Url.withoutUserinfo

instance (first second : String) : Decidable (Url.SameServer first second) :=
  inferInstanceAs (Decidable (_ = _))

/-! ### Credentials -/

namespace Credentials

/-- A written locator is used without user and password; a password with text that is given wins over
the one in the locator. -/
theorem ofUri_of_parse {written : String} {url : Url}
    (parsed : Url.parse (Text.trim written) = .ok url) (username password : Option String) :
    ∃ credentials, ofUri written username password = .ok credentials ∧
      credentials.uri = url.withoutUserinfo ∧
      credentials.password = (Text.nonBlank password <|> url.password) := by
  unfold ofUri
  rw [parsed]
  dsimp only
  cases hasUserinfo : (!url.username.isEmpty || url.password.any Text.hasText) with
  | false =>
      simp only [Bool.or_eq_false_iff, Bool.not_eq_false', String.isEmpty_iff] at hasUserinfo
      -- A password without text is none, so nothing is left in the locator.
      have noPassword : url.password = none := by
        cases present : url.password with
        | none => rfl
        | some found =>
            have text := Url.hasText_of_parse parsed present
            simp [present, text] at hasUserinfo
      refine ⟨_, rfl, ?_, ?_⟩
      · simp [Url.withoutUserinfo, ← hasUserinfo.1, ← noPassword]
      · simp [noPassword]
  | true =>
      cases given : Text.nonBlank password with
      | none => exact ⟨_, rfl, rfl, by simp⟩
      | some found => exact ⟨_, rfl, rfl, by simp⟩

theorem parse_of_ofUri {written : String} {username password : Option String}
    {credentials : Credentials} (found : ofUri written username password = .ok credentials) :
    ∃ url, Url.parse (Text.trim written) = .ok url ∧ credentials.uri = url.withoutUserinfo := by
  cases parsed : Url.parse (Text.trim written) with
  | error fault => simp [ofUri, parsed] at found
  | ok url =>
      obtain ⟨made, isMade, uri, _⟩ := ofUri_of_parse parsed username password
      cases found.symm.trans isMade
      exact ⟨url, rfl, uri⟩

end Credentials

namespace ServerTargets

/-- A discovered server has its own locator and the shared credential. -/
theorem credentials_discovered {instances : DiscoveredInstances} {index : Nat}
    {credentials : Credentials} (found : (discovered instances).credentials index = .ok credentials) :
    ∃ written url, instances.uris[index]? = some written ∧
      Url.parse (Text.trim written) = .ok url ∧
      credentials = ⟨url.withoutUserinfo, instances.username, instances.password⟩ := by
  unfold ServerTargets.credentials at found
  dsimp only at found
  split at found
  · cases found
  · rename_i written stands
    obtain ⟨own, isOwn, rfl⟩ := map_eq_ok found
    obtain ⟨url, parsed, uri⟩ := Credentials.parse_of_ofUri isOwn
    exact ⟨written, url, stands, parsed, by rw [uri]⟩

theorem isBare_of_credentials {targets : ServerTargets} {index : Nat} {credentials : Credentials}
    (found : targets.credentials index = .ok credentials) : credentials.uri.IsBare := by
  cases targets with
  | configured settings =>
      unfold ServerTargets.credentials ClientSettings.credentials at found
      dsimp only at found
      split at found
      · cases found
      · obtain ⟨url, _, uri⟩ := Credentials.parse_of_ofUri found
        exact uri ▸ url.isBare_withoutUserinfo
  | discovered instances =>
      obtain ⟨_, url, _, _, rfl⟩ := credentials_discovered found
      exact url.isBare_withoutUserinfo

end ServerTargets

/-! ### Requests -/

namespace ConfigRequest

/-- The authorization from a credential and the custom headers alone. -/
def authorizationOf? (headers : List (String × String)) (username password : Option String) :
    Option String :=
  match password with
  | some password =>
    some ("Basic " ++ Base64.encodeText Base64.standard (username.getD "" ++ ":" ++ password))
  | none => (headers.find? isAuthorization).map Prod.snd

/-- The values under which a request carries an authorization. -/
def authorizations (request : ConfigRequest) : List String :=
  (request.headers.filter isAuthorization).map Prod.snd

theorem eq_authorizationOf? {settings : ClientSettings} {credentials : Credentials}
    {value : Option String} (made : authorization settings credentials = .ok value) :
    value = authorizationOf? settings.headers credentials.username credentials.password := by
  unfold authorization at made
  unfold authorizationOf?
  split at made
  · cases made
  · rename_i password _ given _
    cases made
    rw [given]
  · rename_i given
    cases made
    rw [given]
    rfl

/-- A request has the locator of its server with a longer path, the shared headers, and one
authorization at most. -/
theorem parts_of_build {settings : ClientSettings} {shared : List (String × String)}
    {credentials : Credentials} {query : EnvironmentQuery} {request : ConfigRequest}
    (made : build settings shared credentials query = .ok request) :
    environmentUrl credentials.uri query = .ok request.url ∧
      request.headers = shared ++
        (authorizationOf? settings.headers credentials.username credentials.password).toList.map
          fun value => (authorizationHeader, value) := by
  obtain ⟨url, located, later⟩ := bind_eq_ok made
  obtain ⟨value, authorized, built⟩ := bind_eq_ok later
  cases built
  exact ⟨located, by rw [← eq_authorizationOf? authorized]⟩

theorem isBare_of_environmentUrl {base url : Url} {query : EnvironmentQuery} (bare : base.IsBare)
    (located : environmentUrl base query = .ok url) : url.IsBare := by
  unfold environmentUrl at located
  dsimp only at located
  split at located
  · rename_i extended
    cases located
    exact Url.isBare_of_extend? bare extended
  · cases located

/-- The names of the headers that do not come from the custom ones. -/
theorem name_of_mem_builtInHeaders {settings : ClientSettings} {state : Option String}
    {header : String × String} (member : header ∈ builtInHeaders settings state) :
    header.1 ∈ ["Accept", "Accept-Charset", tokenHeader, stateHeader] := by
  unfold builtInHeaders at member
  dsimp only at member
  rcases List.mem_append.mp member with outer | isState
  · rcases List.mem_append.mp outer with accepts | isToken
    · rcases List.mem_cons.mp accepts with rfl | other
      · simp
      · simp [List.mem_singleton.mp other]
    · obtain ⟨_, _, rfl⟩ := List.mem_map.mp isToken
      simp
  · split at isState
    · obtain ⟨_, _, rfl⟩ := List.mem_map.mp isState
      simp
    · cases isState

theorem filter_sharedHeaders {settings : ClientSettings} {state : Option String}
    {shared : List (String × String)} (valid : sharedHeaders settings state = .ok shared) :
    shared.filter isAuthorization = [] := by
  have otherNames : ∀ name ∈ ["Accept", "Accept-Charset", tokenHeader, stateHeader],
      Text.sameLetters name authorizationHeader = false := by decide
  obtain ⟨_, _, made⟩ := bind_eq_ok valid
  cases made
  rw [List.filter_append, List.append_eq_nil_iff]
  constructor
  · rw [List.filter_eq_nil_iff]
    intro header member
    simp [isAuthorization, otherNames _ (name_of_mem_builtInHeaders member)]
  · simp [List.filter_filter]

/-- Behind shared headers a request carries the authorization of its credential. -/
theorem authorizations_of_build {settings : ClientSettings} {state : Option String}
    {shared : List (String × String)} (valid : sharedHeaders settings state = .ok shared)
    {credentials : Credentials} {query : EnvironmentQuery} {request : ConfigRequest}
    (made : build settings shared credentials query = .ok request) :
    request.authorizations =
      (authorizationOf? settings.headers credentials.username credentials.password).toList := by
  have isOne : ∀ value : String, isAuthorization (authorizationHeader, value) = true := by
    intro value
    simp [isAuthorization, Text.sameLetters]
  rw [authorizations, (parts_of_build made).2, List.filter_append, filter_sharedHeaders valid,
    List.nil_append]
  cases authorizationOf? settings.headers credentials.username credentials.password with
  | none => rfl
  | some value => simp [isOne]

end ConfigRequest

/-! ### The requests of a resolution -/

/-- The resource with other servers. -/
def ConfigResource.withUris (resource : ConfigResource) (uris : List String) : ConfigResource :=
  { resource with settings := { resource.settings with uris := uris } }

namespace Walk

variable {transport : Transport} {resource : ConfigResource} {context : LoadContext}
  {history : List ConfigRequest} {number : Nat} {request : ConfigRequest}

/-- The position of a given number: label by label, each over all servers. -/
theorem position_of_number {position : Nat × Nat}
    (stands : (route resource context)[number]? = some position) :
    position = (number / (servers resource context).length,
      number % (servers resource context).length) := by
  rw [route, positions_eq_map, List.getElem?_map, Option.map_eq_some_iff] at stands
  obtain ⟨found, isFound, rfl⟩ := stands
  obtain ⟨_, rfl⟩ := List.getElem?_eq_some_iff.mp isFound
  rw [List.getElem_range]

/-- The request of a given number is the one of its label and its server. -/
theorem planned_of_request
    (made : (Resolve.locate transport resource context history).requests[number]? = some request) :
    planned resource context (number / (servers resource context).length,
      number % (servers resource context).length) = .ok request := by
  obtain ⟨others, inOrder⟩ := (locate_labelMajor transport resource context history).inOrder
  have stands : ((route resource context).map (planned resource context))[number]? =
      some (.ok request) := by
    have below := (List.getElem?_eq_some_iff.mp made).1
    rw [← inOrder, List.getElem?_append_left (by simpa using below), List.getElem?_map, made]
    rfl
  rw [List.getElem?_map, Option.map_eq_some_iff] at stands
  obtain ⟨position, isNumber, plan⟩ := stands
  rwa [position_of_number isNumber] at plan

theorem parts_of_planned {position : Nat × Nat}
    (plan : planned resource context position = .ok request) :
    ∃ shared credentials,
      ConfigRequest.sharedHeaders resource.settings context.state = .ok shared ∧
        (servers resource context).credentials position.2 = .ok credentials ∧
        ConfigRequest.build resource.settings shared credentials
          (labelQuery resource (resource.settings.candidateLabels.getD position.1 "")) =
            .ok request := by
  obtain ⟨shared, valid, asked⟩ := bind_eq_ok plan
  obtain ⟨credentials, found, made⟩ := bind_eq_ok asked
  exact ⟨shared, credentials, valid, found, made⟩

/-! ### Isolation -/

theorem isBare_of_planned {position : Nat × Nat}
    (plan : planned resource context position = .ok request) : request.url.IsBare := by
  obtain ⟨_, credentials, _, found, made⟩ := parts_of_planned plan
  exact ConfigRequest.isBare_of_environmentUrl (ServerTargets.isBare_of_credentials found)
    (ConfigRequest.parts_of_build made).1

theorem servers_of_static (static : resource.settings.discovery.enabled = false)
    (context : LoadContext) : servers resource context = .configured resource.settings := by
  simp [servers, Resolve.targets, static]

/-- Configured servers: the request at a server depends on the written locator of that server alone. -/
theorem planned_withUris (static : resource.settings.discovery.enabled = false) {uris : List String}
    {server : Nat} (same : uris[server]? = resource.settings.uris[server]?)
    (count : uris.length = resource.settings.uris.length) (label : Nat) :
    planned (resource.withUris uris) context (label, server) =
      planned resource context (label, server) := by
  have otherStatic : (resource.withUris uris).settings.discovery.enabled = false := static
  have credentials : (servers (resource.withUris uris) context).credentials server =
      (servers resource context).credentials server := by
    rw [servers_of_static static, servers_of_static otherStatic]
    simp only [ServerTargets.credentials, ClientSettings.credentials, ConfigResource.withUris, same,
      count]
  unfold planned ask
  dsimp only
  rw [credentials]
  rfl

/-- Discovered servers: the request at a server depends on its locator without user and password. -/
theorem planned_discovered_eq {uris : List String} {other : LoadContext}
    {instances others : DiscoveredInstances} (here : servers resource context = .discovered instances)
    (there : servers (resource.withUris uris) other = .discovered others)
    (state : other.state = context.state) (username : others.username = instances.username)
    (password : others.password = instances.password) {position : Nat × Nat}
    (same : ∀ first second, instances.uris[position.2]? = some first →
      others.uris[position.2]? = some second → Url.SameServer first second)
    {left right : ConfigRequest} (plan : planned resource context position = .ok left)
    (otherPlan : planned (resource.withUris uris) other position = .ok right) : left = right := by
  obtain ⟨shared, credentials, valid, found, made⟩ := parts_of_planned plan
  obtain ⟨otherShared, otherCredentials, otherValid, otherFound, otherMade⟩ :=
    parts_of_planned otherPlan
  rw [here] at found
  rw [there] at otherFound
  obtain ⟨first, url, stands, parsed, rfl⟩ := ServerTargets.credentials_discovered found
  obtain ⟨second, otherUrl, otherStands, otherParsed, rfl⟩ :=
    ServerTargets.credentials_discovered otherFound
  have bare : url.withoutUserinfo = otherUrl.withoutUserinfo := by
    have sameServer := same first second stands otherStands
    simpa [Url.SameServer, parsed, otherParsed, Except.toOption] using sameServer
  have sharedHeaders : otherShared = shared := by
    rw [state] at otherValid
    exact Except.ok.inj (otherValid.symm.trans valid)
  rw [sharedHeaders, username, password, ← bare] at otherMade
  exact Except.ok.inj (made.symm.trans otherMade)

theorem authorizations_of_planned {instances : DiscoveredInstances}
    (discovers : servers resource context = .discovered instances) {position : Nat × Nat}
    (plan : planned resource context position = .ok request) :
    request.authorizations = (ConfigRequest.authorizationOf? resource.settings.headers
      instances.username instances.password).toList := by
  obtain ⟨_, credentials, valid, found, made⟩ := parts_of_planned plan
  rw [discovers] at found
  obtain ⟨_, _, _, _, rfl⟩ := ServerTargets.credentials_discovered found
  exact ConfigRequest.authorizations_of_build valid made

/-- Whose credentials the requests of a resolution carry. -/
structure IsolatesCredentials (resource : ConfigResource) (context : LoadContext) : Prop where
  /-- No locator of a request carries user or password. -/
  bare : ∀ (loader : Loader) (history : List ConfigRequest),
    ∀ request ∈ (loader.resolve history ⟨resource, context⟩).requests, request.url.IsBare
  /-- Configured servers: what is written for other servers does not change a request. -/
  perServer : resource.settings.discovery.enabled = false → ∀ (uris : List String) (server : Nat),
    uris.length = resource.settings.uris.length → uris[server]? = resource.settings.uris[server]? →
    ∀ (first second : Loader) (earlier later : List ConfigRequest) (number : Nat)
      (left right : ConfigRequest), number % uris.length = server →
      (first.resolve earlier ⟨resource, context⟩).requests[number]? = some left →
      (second.resolve later ⟨resource.withUris uris, context⟩).requests[number]? = some right →
      left = right
  /-- Discovered servers: all requests carry one authorization, or none, that is made from the shared
  credential and the custom headers. -/
  oneAuthorization : ∀ instances, servers resource context = .discovered instances →
    ∀ (loader : Loader) (history : List ConfigRequest),
      ∀ request ∈ (loader.resolve history ⟨resource, context⟩).requests,
        request.authorizations = (ConfigRequest.authorizationOf? resource.settings.headers
          instances.username instances.password).toList
  /-- Discovered servers: user and password in their locators do not change a request. -/
  nothingEmbedded : ∀ (uris : List String) (other : LoadContext)
      (instances others : DiscoveredInstances),
    servers resource context = .discovered instances →
    servers (resource.withUris uris) other = .discovered others →
    other.state = context.state → others.username = instances.username →
    others.password = instances.password → others.uris.length = instances.uris.length →
    (∀ (server : Nat) (first second : String), instances.uris[server]? = some first →
      others.uris[server]? = some second → Url.SameServer first second) →
    ∀ (loader otherLoader : Loader) (earlier later : List ConfigRequest) (number : Nat)
      (left right : ConfigRequest),
      (loader.resolve earlier ⟨resource, context⟩).requests[number]? = some left →
      (otherLoader.resolve later ⟨resource.withUris uris, other⟩).requests[number]? = some right →
      left = right

/-- The requests of every resolution keep the credentials of its servers apart. -/
theorem resolution_isolatesCredentials (resource : ConfigResource) (context : LoadContext) :
    IsolatesCredentials resource context where
  bare loader history request member := by
    rw [loader.resolve_requests] at member
    obtain ⟨number, made⟩ := List.mem_iff_getElem?.mp member
    exact isBare_of_planned (planned_of_request made)
  perServer static uris server count same first second earlier later number left right isServer
      here there := by
    rw [Loader.resolve_requests] at here there
    -- A number alone says which label and server a request is for, wherever the runs stop.
    have plan := planned_of_request here
    have otherPlan := planned_of_request there
    have otherStatic : (resource.withUris uris).settings.discovery.enabled = false := static
    have otherLength : (servers (resource.withUris uris) context).length = uris.length := by
      rw [servers_of_static otherStatic]
      rfl
    have length : (servers resource context).length = uris.length := by
      rw [servers_of_static static, count]
      rfl
    rw [length, isServer] at plan
    rw [otherLength, isServer, planned_withUris static same count] at otherPlan
    exact Except.ok.inj (plan.symm.trans otherPlan)
  oneAuthorization instances discovers loader history request member := by
    rw [loader.resolve_requests] at member
    obtain ⟨number, made⟩ := List.mem_iff_getElem?.mp member
    exact authorizations_of_planned discovers (planned_of_request made)
  nothingEmbedded uris other instances others here there state username password count same loader
      otherLoader earlier later number left right made otherMade := by
    rw [Loader.resolve_requests] at made otherMade
    have plan := planned_of_request made
    have otherPlan := planned_of_request otherMade
    have lengths : (servers (resource.withUris uris) other).length =
        (servers resource context).length := by
      rw [here, there]
      exact count
    rw [lengths] at otherPlan
    exact planned_discovered_eq here there state username password (same _) plan otherPlan

/-- A server that does not know any environment. -/
def unknowing : Loader := ⟨fun _ => .ok ⟨404, none, ""⟩, false, []⟩

/-- Two configured servers, each with its own user. -/
def twoUsers : ConfigResource :=
  .required { ClientSettings.defaults with uris := ["http://u:p@[::1]", "http://x:y@[::2]"] } []

/-- A resource whose servers are discovered. -/
def discovering : ConfigResource :=
  .required { ClientSettings.defaults with discovery := ⟨true, "configserver"⟩ } []

/-- The second server gets the same request for whatever user of the first one, and a discovered
server gets the shared credential in place of its own. -/
theorem isolatesCredentials_twoUsers :
    (∃ left right, (unknowing.resolve [] ⟨twoUsers, ⟨none, none⟩⟩).requests[1]? = some left ∧
      (unknowing.resolve [] ⟨twoUsers.withUris ["http://a:b@[::1]", "http://x:y@[::2]"],
        ⟨none, none⟩⟩).requests[1]? = some right ∧
      left.url.IsBare ∧ left = right) ∧
    ∃ left right, (unknowing.resolve [] ⟨discovering,
        ⟨none, some ⟨["http://u:p@[::1]"], some "shared", some "pw"⟩⟩⟩).requests[0]? = some left ∧
      (unknowing.resolve [] ⟨discovering.withUris [],
        ⟨none, some ⟨["http://[::1]"], some "shared", some "pw"⟩⟩⟩).requests[0]? = some right ∧
      left.authorizations = ["Basic c2hhcmVkOnB3"] ∧ left = right := by
  have first : ((unknowing.resolve [] ⟨twoUsers, ⟨none, none⟩⟩).requests[1]?).isSome = true := by
    decide +kernel
  have second : ((unknowing.resolve [] ⟨twoUsers.withUris ["http://a:b@[::1]", "http://x:y@[::2]"],
      ⟨none, none⟩⟩).requests[1]?).isSome = true := by decide +kernel
  have third : ((unknowing.resolve [] ⟨discovering,
      ⟨none, some ⟨["http://u:p@[::1]"], some "shared", some "pw"⟩⟩⟩).requests[0]?).isSome = true := by
    decide +kernel
  have fourth : ((unknowing.resolve [] ⟨discovering.withUris [],
      ⟨none, some ⟨["http://[::1]"], some "shared", some "pw"⟩⟩⟩).requests[0]?).isSome = true := by
    decide +kernel
  have sameServer : Url.SameServer "http://u:p@[::1]" "http://[::1]" := by decide +kernel
  obtain ⟨left, here⟩ := Option.isSome_iff_exists.mp first
  obtain ⟨right, there⟩ := Option.isSome_iff_exists.mp second
  obtain ⟨found, foundHere⟩ := Option.isSome_iff_exists.mp third
  obtain ⟨other, otherHere⟩ := Option.isSome_iff_exists.mp fourth
  have configured := resolution_isolatesCredentials twoUsers ⟨none, none⟩
  have discovered := resolution_isolatesCredentials discovering
    ⟨none, some ⟨["http://u:p@[::1]"], some "shared", some "pw"⟩⟩
  refine ⟨⟨left, right, here, there, ?_, ?_⟩, found, other, foundHere, otherHere, ?_, ?_⟩
  · exact configured.bare unknowing [] left (List.mem_of_getElem? here)
  · exact configured.perServer rfl ["http://a:b@[::1]", "http://x:y@[::2]"] 1 rfl rfl
      unknowing unknowing [] [] 1 left right rfl here there
  · rw [discovered.oneAuthorization _ rfl unknowing [] found (List.mem_of_getElem? foundHere)]
    decide +kernel
  · refine discovered.nothingEmbedded [] ⟨none, some ⟨["http://[::1]"], some "shared", some "pw"⟩⟩ _ _
      rfl rfl rfl rfl rfl rfl ?_ unknowing unknowing [] [] 0 found other foundHere otherHere
    rintro (_ | server) one two isOne isTwo
    · cases isOne
      cases isTwo
      exact sameServer
    · cases isOne

end Walk

end RemoteConfig
