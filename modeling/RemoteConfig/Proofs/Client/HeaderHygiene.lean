import Mathlib.Data.List.Nodup
import RemoteConfig.Proofs.Client.FirstRequest
import RemoteConfig.Proofs.Client.Isolation
import RemoteConfig.Proofs.Http.HeaderOrder

/-!
Contract: the headers of the requests of a fetch.

Owns:
- headers that may be sent, among them every authorization that is made from user and password;
- the requests of a fetch as requests that were built under checked headers;
- custom headers whose order in the settings makes no difference;
- `fetch_sendsCleanHeaders`: a header that may not be sent prevents every request, and what is sent
  is valid, begins with the built-in headers and carries one authorization at most.

Does not own: which requests a fetch makes.
-/

namespace RemoteConfig

/-- A header that may be sent. -/
def Header.IsSendable (header : String × String) : Prop :=
  isValidName header.1 = true ∧ isValidValue header.2 = true

/-! ### Text of 64 characters as a value -/

namespace Base64

theorem isValueChar_digit (value : Nat) : Header.isValueChar (digit standard value) = true := by
  have sixBits : ∀ value < 64, Header.isValueChar (digit standard value) = true := by decide
  by_cases below : value < 64
  · exact sixBits value below
  · have isLast : digit standard value = '/' := by
      unfold digit
      rw [if_neg (by omega), if_neg (by omega), if_neg (by omega), if_neg (by omega)]
      rfl
    rw [isLast]
    decide

theorem isValueChar_padding (missing : Nat) :
    ∀ character ∈ padding standard missing, Header.isValueChar character = true := by
  intro character member
  have isPadding : character ∈ List.replicate missing '=' := member
  rw [List.eq_of_mem_replicate isPadding]
  decide

theorem isValueChar_encodeChars (bytes : Bytes) :
    ∀ character ∈ encodeChars standard bytes, Header.isValueChar character = true := by
  induction bytes using encodeChars.induct with
  | case1 => simp [encodeChars]
  | case2 first =>
      have padded := isValueChar_padding 2
      simpa [encodeChars, isValueChar_digit] using padded
  | case3 first second =>
      have padded := isValueChar_padding 1
      simpa [encodeChars, isValueChar_digit] using padded
  | case4 first second third rest inductionHypothesis =>
      simpa [encodeChars, isValueChar_digit] using inductionHypothesis

theorem isValidValue_basic (text : String) :
    Header.isValidValue ("Basic " ++ encodeText standard text) = true := by
  have isStart : "Basic ".toList.all Header.isValueChar = true := by decide
  unfold Header.isValidValue encodeText encode
  rw [List.all_eq_true, String.toList_append]
  intro character member
  rcases List.mem_append.mp member with atStart | encoded
  · exact List.all_eq_true.mp isStart character atStart
  · rw [String.toList_ofList] at encoded
    exact isValueChar_encodeChars _ character encoded

end Base64

namespace ConfigRequest

/-! ### Checked headers -/

theorem checkHeader_eq_ok_iff (header : String × String) :
    checkHeader header = .ok () ↔ Header.IsSendable header := by
  unfold checkHeader Header.IsSendable
  cases Header.isValidName header.1 <;> cases Header.isValidValue header.2 <;> simp

theorem isSendable_authorizationOf? {headers : List (String × String)}
    (custom : ∀ header ∈ headers, Header.IsSendable header) (username password : Option String)
    {value : String} (made : authorizationOf? headers username password = some value) :
    Header.IsSendable (authorizationHeader, value) := by
  have isName : Header.isValidName authorizationHeader = true := by decide
  refine ⟨isName, ?_⟩
  unfold authorizationOf? at made
  split at made
  · rw [← Option.some.inj made]
    exact Base64.isValidValue_basic _
  · obtain ⟨header, found, isValue⟩ := Option.map_eq_some_iff.mp made
    rw [← isValue]
    exact (custom header (List.mem_of_find?_eq_some found)).2

/-- Behind checked headers only headers that may be sent are put, the built-in ones first and one
authorization at most. -/
theorem headers_of_build {settings : ClientSettings} {state : Option String}
    {shared : List (String × String)} (valid : sharedHeaders settings state = .ok shared)
    {credentials : Credentials} {query : EnvironmentQuery} {request : ConfigRequest}
    (made : build settings shared credentials query = .ok request) :
    (∀ header ∈ request.headers, Header.IsSendable header) ∧
      builtInHeaders settings state <+: request.headers ∧
      request.authorizations.length ≤ 1 := by
  have checked : ∀ header ∈ builtInHeaders settings state ++ settings.headers,
      Header.IsSendable header := by
    intro header member
    apply (checkHeader_eq_ok_iff header).mp
    exact (exists_sharedHeaders_iff settings state).mp ⟨shared, valid⟩ header member
  have isShared : shared = builtInHeaders settings state ++
      (customHeaders settings).filter fun header => !isAuthorization header := by
    obtain ⟨_, _, built⟩ := bind_eq_ok valid
    exact (Except.ok.inj built).symm
  have parts := (parts_of_build made).2
  refine ⟨?_, ?_, ?_⟩
  · intro header member
    rw [parts] at member
    rcases List.mem_append.mp member with inShared | isLast
    · rw [isShared] at inShared
      apply checked
      rcases List.mem_append.mp inShared with builtIn | custom
      · exact List.mem_append_left _ builtIn
      · exact List.mem_append_right _ (mem_customHeaders.mp (List.mem_filter.mp custom).1)
    · obtain ⟨value, isValue, isHeader⟩ := List.mem_map.mp isLast
      rw [← isHeader]
      apply isSendable_authorizationOf? _ credentials.username credentials.password
        (Option.mem_toList.mp isValue)
      intro custom isCustom
      exact checked custom (List.mem_append_right _ isCustom)
  · rw [parts, isShared, List.append_assoc]
    exact List.prefix_append _ _
  · rw [authorizations_of_build valid made]
    exact Option.length_toList_le

/-! ### Custom headers in another order -/

/-- The names of a map of headers spell the one for authorization in one way at most. -/
def SpellsAuthorizationOnce (headers : List (String × String)) : Prop :=
  ∀ first ∈ headers, ∀ second ∈ headers,
    isAuthorization first = true → isAuthorization second = true → first.1 = second.1

theorem standsBefore_iff (first second : String × String) :
    standsBefore first second = true ↔ Header.IsBefore first second := by
  simp [standsBefore, Header.IsBefore]

theorem standsBefore_trans {first second third : String × String}
    (before : standsBefore first second = true) (behind : standsBefore second third = true) :
    standsBefore first third = true := by
  rw [standsBefore_iff] at before behind ⊢
  exact before.trans behind

theorem standsBefore_of_not {first second : String × String}
    (notBefore : ¬ standsBefore first second = true) : standsBefore second first = true := by
  rw [standsBefore_iff] at notBefore ⊢
  exact (Header.IsBefore.total first second).resolve_left notBefore

theorem insertHeader_pairwise (added : String × String) {headers : List (String × String)}
    (sorted : headers.Pairwise fun first second => standsBefore first second = true) :
    (insertHeader added headers).Pairwise fun first second => standsBefore first second = true := by
  induction headers with
  | nil => exact List.pairwise_singleton _ _
  | cons first rest inductionHypothesis =>
      obtain ⟨least, restSorted⟩ := List.pairwise_cons.mp sorted
      unfold insertHeader
      split
      · rename_i before
        refine List.pairwise_cons.mpr ⟨?_, sorted⟩
        intro other member
        rcases List.mem_cons.mp member with isFirst | later
        · exact isFirst ▸ before
        · exact standsBefore_trans before (least other later)
      · rename_i notBefore
        refine List.pairwise_cons.mpr ⟨?_, inductionHypothesis restSorted⟩
        intro other member
        rcases List.mem_cons.mp ((perm_insertHeader added rest).mem_iff.mp member) with isAdded | old
        · exact isAdded ▸ standsBefore_of_not notBefore
        · exact least other old

section Reordered

variable {settings : ClientSettings} {order : List (String × String)}
  (permuted : order.Perm settings.headers)

theorem customHeaders_pairwise (settings : ClientSettings) :
    (customHeaders settings).Pairwise fun first second => standsBefore first second = true := by
  unfold customHeaders
  induction settings.headers with
  | nil => exact .nil
  | cons header rest inductionHypothesis => exact insertHeader_pairwise header inductionHypothesis

include permuted in
/-- The custom headers are sent in the order of their names. -/
theorem customHeaders_of_perm :
    customHeaders { settings with headers := order } = customHeaders settings := by
  apply List.Perm.eq_of_pairwise _ (customHeaders_pairwise _) (customHeaders_pairwise settings)
  · exact (perm_customHeaders _).trans (permuted.trans (perm_customHeaders settings).symm)
  · intro first second _ _ before behind
    rw [standsBefore_iff] at before behind
    exact before.antisymm behind

include permuted in
/-- There is one custom authorization to find, wherever it stands. -/
theorem find?_isAuthorization_of_perm (isMap : (settings.headers.map Prod.fst).Nodup)
    (once : SpellsAuthorizationOnce settings.headers) :
    order.find? isAuthorization = settings.headers.find? isAuthorization := by
  cases found : order.find? isAuthorization with
  | none =>
      symm
      apply List.find?_eq_none.mpr
      intro header member
      exact List.find?_eq_none.mp found header (permuted.mem_iff.mpr member)
  | some header =>
      have member := permuted.mem_iff.mp (List.mem_of_find?_eq_some found)
      have isHeader := List.find?_some found
      cases other : settings.headers.find? isAuthorization with
      | none => exact absurd isHeader (List.find?_eq_none.mp other header member)
      | some second =>
          have otherMember := List.mem_of_find?_eq_some other
          have sameName := once header member second otherMember isHeader (List.find?_some other)
          rw [List.inj_on_of_nodup_map isMap member otherMember sameName]

end Reordered

end ConfigRequest

namespace Walk

/-! ### The requests of a fetch -/

theorem exists_build_of_fetch {transport : Transport} {settings : ClientSettings}
    {targets : ServerTargets} {query : EnvironmentQuery} {state : Option String}
    {history : List ConfigRequest} {request : ConfigRequest}
    (made : request ∈ (Fetch.run transport settings targets query state history).requests) :
    ∃ shared credentials, ConfigRequest.sharedHeaders settings state = .ok shared ∧
      ConfigRequest.build settings shared credentials query = .ok request := by
  have requests := congrArg Prod.fst (fetchRun_eq_along transport settings targets query state history)
  have inOrder := (along_report transport settings.strategy history
    (labelPlaces settings targets query state)).inOrder
  have isPlace : .ok request ∈ (labelPlaces settings targets query state).map Place.request := by
    apply inOrder.subset
    exact List.mem_map_of_mem (requests ▸ made)
  unfold labelPlaces at isPlace
  cases headers : ConfigRequest.sharedHeaders settings state with
  | error error =>
      rw [headers] at isPlace
      cases List.mem_singleton.mp isPlace
  | ok shared =>
      rw [headers, List.map_map] at isPlace
      obtain ⟨server, _, asked⟩ := List.mem_map.mp isPlace
      obtain ⟨credentials, _, built⟩ := bind_eq_ok asked
      exact ⟨shared, credentials, rfl, built⟩

/-- The custom headers of a map in another order lead to the same requests and outcome. -/
theorem summary_fetch_of_perm {settings : ClientSettings} {order : List (String × String)}
    (permuted : order.Perm settings.headers) (isMap : (settings.headers.map Prod.fst).Nodup)
    (once : ConfigRequest.SpellsAuthorizationOnce settings.headers) {targets others : ServerTargets}
    (count : others.length = targets.length)
    (credentials : ∀ server, others.credentials server = targets.credentials server)
    (transport : Transport) (query : EnvironmentQuery) (state : Option String)
    (history : List ConfigRequest) :
    summary (Fetch.run transport { settings with headers := order } others query state history) =
      summary (Fetch.run transport settings targets query state history) := by
  have shared : ConfigRequest.sharedHeaders { settings with headers := order } state =
      ConfigRequest.sharedHeaders settings state := by
    unfold ConfigRequest.sharedHeaders
    rw [ConfigRequest.customHeaders_of_perm permuted]
    rfl
  have authorization (credentials : Credentials) :
      ConfigRequest.authorization { settings with headers := order } credentials =
        ConfigRequest.authorization settings credentials := by
    unfold ConfigRequest.authorization ConfigRequest.customAuthorization?
    rw [ConfigRequest.find?_isAuthorization_of_perm permuted isMap once]
  have asked (shared : List (String × String)) :
      ask { settings with headers := order } others query shared =
        ask settings targets query shared := by
    funext server
    unfold ask ConfigRequest.build
    simp only [credentials, authorization]
  have places : labelPlaces { settings with headers := order } others query state =
      labelPlaces settings targets query state := by
    unfold labelPlaces
    simp only [shared, asked, count]
  rw [fetchRun_eq_along, fetchRun_eq_along, places]

/-- What the headers of every fetch under some settings and a state are like. -/
structure SendsCleanHeaders (settings : ClientSettings) (state : Option String) : Prop where
  /-- A header that may not be sent is a fault of the settings, for which no server is asked. -/
  refuses : ∀ header ∈ ConfigRequest.builtInHeaders settings state ++ settings.headers,
    ¬ Header.IsSendable header →
    ∀ (transport : Transport) (targets : ServerTargets) (query : EnvironmentQuery)
      (history : List ConfigRequest),
      (Fetch.run transport settings targets query state history).requests = [] ∧
        ∃ fault, (Fetch.run transport settings targets query state history).outcome =
          .error (.configuration fault)
  /-- All that is sent may be sent, begins with the built-in headers, and has one authorization at
  most, under any letter case. -/
  sends : ∀ (transport : Transport) (targets : ServerTargets) (query : EnvironmentQuery)
      (history : List ConfigRequest),
    ∀ request ∈ (Fetch.run transport settings targets query state history).requests,
      (∀ header ∈ request.headers, Header.IsSendable header) ∧
        ConfigRequest.builtInHeaders settings state <+: request.headers ∧
        request.authorizations.length ≤ 1
  /-- The order in which the map of custom headers is listed changes neither a request nor the
  outcome, unless authorization is spelled in several ways. -/
  anyOrder : ∀ order : List (String × String), order.Perm settings.headers →
    (settings.headers.map Prod.fst).Nodup →
    ConfigRequest.SpellsAuthorizationOnce settings.headers →
    ∀ (targets others : ServerTargets), others.length = targets.length →
      (∀ server, others.credentials server = targets.credentials server) →
      ∀ (transport : Transport) (query : EnvironmentQuery) (history : List ConfigRequest),
        summary (Fetch.run transport { settings with headers := order } others query state history) =
          summary (Fetch.run transport settings targets query state history)

/-- The headers of every fetch are clean. -/
theorem fetch_sendsCleanHeaders (settings : ClientSettings) (state : Option String) :
    SendsCleanHeaders settings state where
  refuses header member notSendable transport targets query history := by
    unfold Fetch.run
    cases headers : ConfigRequest.sharedHeaders settings state with
    | error error =>
        obtain ⟨fault, isFault⟩ := ConfigRequest.exists_fault_of_sharedHeaders headers
        exact ⟨rfl, fault, congrArg Except.error isFault⟩
    | ok shared =>
        have checked := (ConfigRequest.exists_sharedHeaders_iff settings state).mp ⟨shared, headers⟩
        exact absurd ((ConfigRequest.checkHeader_eq_ok_iff header).mp (checked header member))
          notSendable
  sends transport targets query history request member := by
    obtain ⟨shared, credentials, valid, built⟩ := exists_build_of_fetch member
    exact ConfigRequest.headers_of_build valid built
  anyOrder order permuted isMap once targets others count credentials transport query history :=
    summary_fetch_of_perm permuted isMap once count credentials transport query state history

/-- A client with three custom headers, one of them for authorization. -/
def traced : ClientSettings :=
  { ClientSettings.defaults with
    uris := ["http://[::1]"]
    headers := [("x-trace", "7"), ("authorization", "Bearer t"), ("x-app", "billing")] }

/-- The custom headers follow the built-in ones by name, the authorization comes last, and another
order of the map makes no difference; a name with a blank prevents the request. -/
theorem fetch_sendsCleanHeaders_traced :
    (Fetch.run unknowing.transport traced (.configured traced) ⟨"app", "dev", ""⟩ none []).requests.map
        ConfigRequest.headers =
      [[("Accept", ClientSettings.defaultMediaType), ("Accept-Charset", "UTF-8"),
        ("x-app", "billing"), ("x-trace", "7"), ("Authorization", "Bearer t")]] ∧
    summary (Fetch.run unknowing.transport { traced with headers := traced.headers.reverse }
        (.configured { traced with headers := traced.headers.reverse }) ⟨"app", "dev", ""⟩ none []) =
      summary (Fetch.run unknowing.transport traced (.configured traced) ⟨"app", "dev", ""⟩ none []) ∧
    (Fetch.run unknowing.transport unsendable.settings (.configured unsendable.settings)
      ⟨"app", "dev", ""⟩ none []).requests = [] := by
  have isMap : (traced.headers.map Prod.fst).Nodup := by decide
  have once : ConfigRequest.SpellsAuthorizationOnce traced.headers := by
    unfold ConfigRequest.SpellsAuthorizationOnce
    decide
  refine ⟨by decide +kernel, ?_, ?_⟩
  · exact (fetch_sendsCleanHeaders traced none).anyOrder traced.headers.reverse
      (List.reverse_perm _) isMap once (.configured traced) _ rfl (fun _ => rfl)
      unknowing.transport ⟨"app", "dev", ""⟩ []
  · have notSendable : ¬ Header.IsSendable ("bad header", "x") := by
      rintro ⟨isName, _⟩
      revert isName
      decide
    exact ((fetch_sendsCleanHeaders unsendable.settings none).refuses ("bad header", "x") (by decide)
      notSendable unknowing.transport _ _ []).1

end Walk

end RemoteConfig
