import RemoteConfig.Login.Acquisition
import RemoteConfig.Proofs.Outcome
import RemoteConfig.Proofs.Vault.GatheringEnds

/-!
Contract: what an acquisition of a token does outside of itself, and in which order.

Owns:
- what each method gathers: wrong settings are found before anything is fetched, and all methods but
  that of a given token lead to a login;
- `acquireToken_isOrderly`: fetches, then at most one login, which decides the outcome.

Does not own: what the calls carry.
-/

namespace RemoteConfig

/-! ### What the methods check -/

theorem AwsEc2Settings.prepare_checksFirst (settings : AwsEc2Settings) :
    settings.prepare.ChecksFirst :=
  (Gathering.sparesSettings_ask _).checksFirst.bind fun _ => Gathering.sparesSettings_pure _

theorem AzureMsiSettings.prepare_checksFirst (settings : AzureMsiSettings) :
    settings.prepare.ChecksFirst := by
  refine Gathering.checksFirst_ofExcept_bind fun role => ?_
  refine (Gathering.sparesSettings_ask _).checksFirst.bind fun metadata => ?_
  refine (Gathering.sparesSettings_document _ _).bind fun description => ?_
  refine (Gathering.sparesSettings_ask _).bind fun answer => ?_
  exact (Gathering.sparesSettings_textField _ _ _).bind fun _ => Gathering.sparesSettings_pure _

theorem GcpGceSettings.prepare_checksFirst (settings : GcpGceSettings) :
    settings.prepare.ChecksFirst := by
  refine Gathering.checksFirst_ofExcept_bind fun role => ?_
  refine Gathering.checksFirst_ofExcept_bind fun url => ?_
  exact (Gathering.sparesSettings_ask _).checksFirst.bind fun _ => Gathering.sparesSettings_pure _

/-- A private key is read before a token is asked for with it. -/
theorem ServiceAccountKey.accessToken_checksFirst (key : ServiceAccountKey) (now : Int) :
    (key.accessToken now).ChecksFirst := by
  refine Gathering.checksFirst_ofExcept_bind fun assertion => ?_
  exact (Gathering.sparesSettings_ask _).checksFirst.bind fun _ =>
    Gathering.sparesSettings_textField _ _ _

theorem GcpIamSettings.instanceToken_sparesSettings : GcpIamSettings.instanceToken.SparesSettings :=
  (Gathering.sparesSettings_ask _).bind fun _ => Gathering.sparesSettings_textField _ _ _

theorem GcpIamSettings.prepare_checksFirst (settings : GcpIamSettings) (context : LoginContext) :
    (settings.prepare context).ChecksFirst := by
  refine Gathering.checksFirst_ofExcept_bind fun role => ?_
  refine Gathering.checksFirst_ofExcept_bind fun key => ?_
  refine Gathering.checksFirst_ofExcept_bind fun account => ?_
  -- With the access token at hand, nothing is left to check.
  have signs (accessToken : String) : (do
      Gathering.tell (.debug "Signing GCP IAM login JWT" [("service_account", account)])
      let answer ← Gathering.ask (settings.signingRequest role account accessToken context.now)
      let signed ← Gathering.textField .googleSigning "signedJwt" answer
      pure (Login.atMount settings.path [("role", .string role), ("jwt", .string signed)])
      : Gathering TokenSource).SparesSettings := by
    refine (Gathering.sparesSettings_tell _).bind fun _ => ?_
    refine (Gathering.sparesSettings_ask _).bind fun answer => ?_
    exact (Gathering.sparesSettings_textField _ _ _).bind fun _ => Gathering.sparesSettings_pure _
  cases key with
  | some key => exact (key.accessToken_checksFirst context.now).bind signs
  | none => exact GcpIamSettings.instanceToken_sparesSettings.checksFirst.bind signs

/-- Every method blames the settings before it fetches anything, if at all. -/
theorem VaultSettings.prepare_checksFirst (settings : VaultSettings) (context : LoginContext) :
    (settings.prepare context).ChecksFirst := by
  unfold prepare
  cases settings.effectiveMethod with
  | awsEc2 => exact settings.awsEc2.prepare_checksFirst
  | azureMsi => exact settings.azureMsi.prepare_checksFirst
  | gcpGce => exact settings.gcpGce.prepare_checksFirst
  | gcpIam => exact settings.gcpIam.prepare_checksFirst context
  | appRole | awsIam | cert | cubbyhole | kubernetes | pcf | token => exact .done _

/-! ### Where the token comes from -/

/-- A login issues the token. -/
def TokenSource.IsLogin (source : TokenSource) : Prop :=
  ∃ path body token, source = .login path body token

namespace Login

/-- What a setting must have is its text as it stands. -/
theorem eq_of_required {value : Option String} {property found : String} {method : LoginMethod}
    (present : required value property method = .ok found) : value = some found := by
  unfold required at present
  split at present
  · rename_i isText
    cases present
    exact (Option.filter_eq_some_iff.mp isText).1
  · cases present

theorem isLogin_atMount (mount : String) (body : List (String × Json)) :
    (atMount mount body).IsLogin :=
  ⟨_, _, _, rfl⟩

/-- A preparation without a fetch that leads to a login if it succeeds. -/
def LeadsToLogin (prepared : Except ConfigError TokenSource) : Prop :=
  ∀ source, prepared = .ok source → source.IsLogin

theorem leadsToLogin_bind {α : Type} {first : Except ConfigError α}
    {second : α → Except ConfigError TokenSource} (last : ∀ value, LeadsToLogin (second value)) :
    LeadsToLogin (first >>= second) := by
  intro source prepared
  obtain ⟨value, _, isLast⟩ := bind_eq_ok prepared
  exact last value source isLast

theorem leadsToLogin_atMount (mount : String) (body : List (String × Json)) :
    LeadsToLogin (pure (atMount mount body)) := by
  rintro _ ⟨⟩
  exact isLogin_atMount mount body

theorem LeadsToLogin.ends {prepared : Except ConfigError TokenSource} (leads : LeadsToLogin prepared) :
    (Gathering.ofExcept prepared).Ends TokenSource.IsLogin fun _ => True := by
  cases prepared with
  | error _ => exact .failure trivial
  | ok source => exact .value (leads source rfl)

end Login

open Login

theorem GcpIamSettings.prepare_ends (settings : GcpIamSettings) (context : LoginContext) :
    (settings.prepare context).Ends TokenSource.IsLogin fun _ => True := by
  refine .of_last fun role => .of_last fun key => .of_last fun account => ?_
  cases key with
  | some _ =>
      exact .of_last fun _ => .of_last fun _ => .of_last fun _ => .of_last fun _ =>
        .value (isLogin_atMount _ _)
  | none =>
      exact .of_last fun _ => .of_last fun _ => .of_last fun _ => .of_last fun _ =>
        .value (isLogin_atMount _ _)

/-- Every method but that of a given token leads to a login. -/
theorem VaultSettings.prepare_ends {settings : VaultSettings}
    (issued : settings.effectiveMethod ≠ .token) (context : LoginContext) :
    (settings.prepare context).Ends TokenSource.IsLogin fun _ => True := by
  unfold prepare
  cases method : settings.effectiveMethod with
  | token => exact absurd method issued
  | cubbyhole =>
      refine LeadsToLogin.ends fun source prepared => ?_
      obtain ⟨token, _, rfl⟩ := map_eq_ok prepared
      exact ⟨_, _, _, rfl⟩
  | appRole =>
      exact LeadsToLogin.ends <| leadsToLogin_bind fun _ => leadsToLogin_bind fun _ =>
        leadsToLogin_atMount _ _
  | cert => exact LeadsToLogin.ends <| leadsToLogin_bind fun _ => leadsToLogin_atMount _ _
  | kubernetes =>
      exact LeadsToLogin.ends <| leadsToLogin_bind fun _ => leadsToLogin_bind fun _ =>
        leadsToLogin_atMount _ _
  | awsIam =>
      exact LeadsToLogin.ends <| leadsToLogin_bind fun _ => leadsToLogin_bind fun _ =>
        leadsToLogin_atMount _ _
  | pcf =>
      exact LeadsToLogin.ends <| leadsToLogin_bind fun _ => leadsToLogin_bind fun _ =>
        leadsToLogin_bind fun _ => leadsToLogin_bind fun _ => leadsToLogin_bind fun _ =>
          leadsToLogin_bind fun _ => leadsToLogin_atMount _ _
  | awsEc2 => exact .of_last fun _ => .value (isLogin_atMount _ _)
  | azureMsi =>
      exact .of_last fun _ => .of_last fun _ => .of_last fun _ => .of_last fun _ =>
        .of_last fun _ => .value (isLogin_atMount _ _)
  | gcpGce =>
      exact .of_last fun _ => .of_last fun _ => .of_last fun _ => .value (isLogin_atMount _ _)
  | gcpIam => exact settings.gcpIam.prepare_ends context

/-! ### The calls of an acquisition -/

/-- Fetches and logins fail with failures of a Vault only. -/
structure VaultOperations.FailAsVault (operations : VaultOperations) : Prop where
  fetch : ∀ history request error, operations.fetch history request = .error error →
    ∃ fault, error = .vault fault
  login : ∀ history path body token error, operations.login history path body token = .error error →
    ∃ fault, error = .vault fault

/-- How an acquisition after some calls acts on its surroundings. -/
structure Acquisition.IsOrderly (settings : VaultSettings) (operations : VaultOperations)
    (history : List VaultCall) (acquisition : Acquisition) : Prop where
  /-- It fetches, and logs in at most once behind all fetches; it does nothing else. -/
  inOrder : ∃ requests : List ExternalRequest, ∃ logins : List VaultCall,
    acquisition.calls = requests.map VaultCall.fetch ++ logins ∧ logins.length ≤ 1 ∧
      ∀ call ∈ logins, ∃ path body token, call = .login path body token
  /-- A fetch that fails is the last call, and its failure is that of the acquisition. -/
  stops : ∀ front request behind error, acquisition.calls = front ++ .fetch request :: behind →
    operations.fetch (history ++ front) request = .error error →
    behind = [] ∧ acquisition.outcome = .error error
  /-- A login decides the outcome: the token that it issues, or its failure. -/
  issued : ∀ front path body token, acquisition.calls = front ++ [.login path body token] →
    acquisition.outcome = operations.login (history ++ front) path body token
  /-- A token that no login issued is the one of the settings, and nothing was called for it. -/
  given : ∀ token, acquisition.outcome = .ok token →
    (∃ front path body wrapped, acquisition.calls = front ++ [.login path body wrapped]) ∨
      settings.effectiveMethod = .token ∧ settings.token = some token ∧ acquisition.calls = []
  /-- Wrong settings are reported before anything is called. -/
  checked : ∀ fault, acquisition.outcome = .error (.settings fault) → acquisition.calls = []

section Acquiring

variable {settings : VaultSettings} {context : LoginContext} {operations : VaultOperations}
  {history : List VaultCall}

/-- An acquisition ends as its gathering does, unless a login follows. -/
theorem VaultSettings.acquireToken_cases (settings : VaultSettings) (context : LoginContext)
    (operations : VaultOperations) (history : List VaultCall) :
    let gathered := (settings.prepare context).run operations history
    let fetches := gathered.requests.map VaultCall.fetch
    let acquisition := settings.acquireToken context operations history
    (∃ error, gathered.outcome = .error error ∧ acquisition.calls = fetches ∧
        acquisition.outcome = .error error) ∨
      (∃ token, gathered.outcome = .ok (.given token) ∧ acquisition.calls = fetches ∧
        acquisition.outcome = .ok token) ∨
      ∃ path body token, gathered.outcome = .ok (.login path body token) ∧
        acquisition.calls = fetches ++ [.login path body token] ∧
        acquisition.outcome = operations.login (history ++ fetches) path body token := by
  dsimp only
  unfold acquireToken
  dsimp only
  split
  · rename_i error ends
    exact .inl ⟨error, ends, rfl, rfl⟩
  · rename_i token ends
    exact .inr (.inl ⟨token, ends, rfl, rfl⟩)
  · rename_i path body token ends
    exact .inr (.inr ⟨path, body, token, ends, rfl, rfl⟩)

/-- A token that is given without a login is the one of the settings. -/
theorem VaultSettings.given_of_run {token : String}
    (ends : ((settings.prepare context).run operations history).outcome = .ok (.given token)) :
    settings.effectiveMethod = .token ∧ settings.token = some token ∧
      ((settings.prepare context).run operations history).requests = [] := by
  by_cases isGiven : settings.effectiveMethod = .token
  · have prepared : settings.prepare context =
        .done ((required settings.token "token" .token).map .given) := by
      unfold prepare
      rw [isGiven]
      rfl
    rw [prepared] at ends ⊢
    obtain ⟨found, present, same⟩ := map_eq_ok ends
    cases same
    exact ⟨isGiven, eq_of_required present, rfl⟩
  · obtain ⟨_, _, _, isLogin⟩ :=
      ((settings.prepare_ends isGiven context).run fun _ _ _ _ => trivial).1 _ ends
    cases isLogin

/-- A fetch in front of logins is one of the requests. -/
theorem requests_of_calls {requests : List ExternalRequest} {logins front behind : List VaultCall}
    {request : ExternalRequest}
    (areLogins : ∀ call ∈ logins, ∃ path body token, call = VaultCall.login path body token)
    (calls : requests.map VaultCall.fetch ++ logins = front ++ .fetch request :: behind) :
    ∃ before after, requests = before ++ request :: after ∧ front = before.map VaultCall.fetch ∧
      behind = after.map VaultCall.fetch ++ logins := by
  induction requests generalizing front with
  | nil =>
      obtain ⟨_, _, _, isLogin⟩ := areLogins (.fetch request) (by simp [show logins = _ from calls])
      cases isLogin
  | cons first others inductionHypothesis =>
      cases front with
      | nil =>
          obtain ⟨same, rest⟩ := List.cons.inj calls
          cases same
          exact ⟨[], others, rfl, rfl, rest.symm⟩
      | cons call front =>
          obtain ⟨same, rest⟩ := List.cons.inj calls
          obtain ⟨before, after, rfl, rfl, behindIs⟩ := inductionHypothesis rest
          exact ⟨first :: before, after, rfl, by rw [← same]; rfl, behindIs⟩

/-- A fetch that fails ends the gathering, and only logins can follow it. -/
theorem stops_of_calls {logins front behind : List VaultCall} {request : ExternalRequest}
    {error : ConfigError}
    (areLogins : ∀ call ∈ logins, ∃ path body token, call = VaultCall.login path body token)
    (calls : ((settings.prepare context).run operations history).requests.map VaultCall.fetch ++
      logins = front ++ .fetch request :: behind)
    (fails : operations.fetch (history ++ front) request = .error error) :
    behind = logins ∧
      ((settings.prepare context).run operations history).outcome = .error error := by
  obtain ⟨before, after, made, rfl, rfl⟩ := requests_of_calls areLogins calls
  obtain ⟨rfl, ends⟩ := Gathering.run_stops made fails
  exact ⟨rfl, ends⟩

theorem not_login_of_fetches {requests : List ExternalRequest} {front : List VaultCall}
    {path : String} {body : Json} {token : Option String} :
    requests.map VaultCall.fetch ≠ front ++ [.login path body token] := by
  intro calls
  have member : VaultCall.login path body token ∈ requests.map VaultCall.fetch := by
    simp [calls]
  obtain ⟨_, _, isFetch⟩ := List.mem_map.mp member
  cases isFetch

/-- An acquisition whose gathering fails makes the requests of the gathering. -/
theorem isOrderly_of_failure (fails : operations.FailAsVault) {acquisition : Acquisition}
    {error : ConfigError}
    (ends : ((settings.prepare context).run operations history).outcome = .error error)
    (calls : acquisition.calls =
      ((settings.prepare context).run operations history).requests.map VaultCall.fetch)
    (outcome : acquisition.outcome = .error error) :
    acquisition.IsOrderly settings operations history where
  inOrder := ⟨_, [], by rw [calls, List.append_nil], by simp, by simp⟩
  stops front request behind failure made failed := by
    rw [calls, ← List.append_nil (List.map _ _)] at made
    obtain ⟨isLast, stopped⟩ := stops_of_calls (by simp) made failed
    cases ends.symm.trans stopped
    exact ⟨isLast, outcome⟩
  issued front path body token made := absurd (calls.symm.trans made) not_login_of_fetches
  given token succeeds := by cases outcome.symm.trans succeeds
  checked fault blames := by
    cases outcome.symm.trans blames
    have spares : ∀ history request error, operations.fetch history request = .error error →
        error.SparesSettings := by
      rintro history request error failed fault rfl
      obtain ⟨_, isVault⟩ := fails.fetch history request _ failed
      cases isVault
    rw [calls, (settings.prepare_checksFirst context).run spares ends]
    rfl

/-- An acquisition without a login and without a failure is that of a given token. -/
theorem isOrderly_of_given {acquisition : Acquisition} {token : String}
    (ends : ((settings.prepare context).run operations history).outcome = .ok (.given token))
    (calls : acquisition.calls =
      ((settings.prepare context).run operations history).requests.map VaultCall.fetch)
    (outcome : acquisition.outcome = .ok token) :
    acquisition.IsOrderly settings operations history := by
  obtain ⟨isGiven, isToken, noRequests⟩ := VaultSettings.given_of_run ends
  have noCalls : acquisition.calls = [] := by
    rw [calls, noRequests]
    rfl
  refine ⟨⟨[], [], noCalls, by simp, by simp⟩, ?_, ?_, ?_, fun _ _ => noCalls⟩
  · intro front request behind failure made
    simp [noCalls] at made
  · intro front path body token made
    simp [noCalls] at made
  · intro other succeeds
    cases outcome.symm.trans succeeds
    exact .inr ⟨isGiven, isToken, noCalls⟩

/-- An acquisition with a login ends as the login does. -/
theorem isOrderly_of_login (fails : operations.FailAsVault) {acquisition : Acquisition}
    {path : String} {body : Json} {token : Option String}
    (ends : ((settings.prepare context).run operations history).outcome =
      .ok (.login path body token))
    (calls : acquisition.calls =
      ((settings.prepare context).run operations history).requests.map VaultCall.fetch ++
        [.login path body token])
    (outcome : acquisition.outcome = operations.login
      (history ++ ((settings.prepare context).run operations history).requests.map VaultCall.fetch)
      path body token) :
    acquisition.IsOrderly settings operations history where
  inOrder := ⟨_, _, calls, by simp, by simp⟩
  stops front request behind failure made failed := by
    obtain ⟨_, stopped⟩ := stops_of_calls (by simp) (calls.symm.trans made) failed
    cases ends.symm.trans stopped
  issued front otherPath otherBody otherToken made := by
    obtain ⟨rfl, same⟩ := List.append_inj' (calls.symm.trans made) rfl
    cases same
    exact outcome
  given token succeeds := .inl ⟨_, _, _, _, calls⟩
  checked fault blames := by
    obtain ⟨_, isVault⟩ := fails.login _ _ _ _ _ (outcome.symm.trans blames)
    cases isVault

/-- An acquisition fetches and then logs in at most once; a fetch that fails ends it, a login decides
its outcome, only the given token needs none, and wrong settings are reported before any call. -/
theorem acquireToken_isOrderly (settings : VaultSettings) (context : LoginContext)
    {operations : VaultOperations} (fails : operations.FailAsVault) (history : List VaultCall) :
    (settings.acquireToken context operations history).IsOrderly settings operations history := by
  obtain ⟨error, ends, calls, outcome⟩ | ⟨token, ends, calls, outcome⟩ |
    ⟨path, body, token, ends, calls, outcome⟩ :=
      settings.acquireToken_cases context operations history
  · exact isOrderly_of_failure fails ends calls outcome
  · exact isOrderly_of_given ends calls outcome
  · exact isOrderly_of_login fails ends calls outcome

end Acquiring

/-- A Vault that issues one token, and services that give some answers and then fail. -/
def VaultOperations.answering (answers : List String) : VaultOperations where
  read _ _ _ := .ok none
  login _ _ _ _ := .ok "s.issued"
  fetch history request :=
    match answers[history.length]? with
    | some answer => .ok answer
    | none => .error (.vault (.fetchFailed request.url))

theorem VaultOperations.answering_failAsVault (answers : List String) :
    (answering answers).FailAsVault where
  fetch history request error failed := by
    unfold answering at failed
    dsimp only at failed
    split at failed
    · cases failed
    · cases failed
      exact ⟨_, rfl⟩
  login _ _ _ _ _ failed := by cases failed

namespace Acquisition

/-- An instance that has a token signed for a service account. -/
def signingSettings : VaultSettings :=
  { VaultSettings.defaults with
    method := some .gcpIam
    gcpIam := { GcpIamSettings.defaults with
      role := "web"
      serviceAccountId := "sa@project" } }

/-- The acquisition of that instance, from services that give some answers and then fail. -/
def signing (answers : List String) : Acquisition :=
  signingSettings.acquireToken ⟨.empty, [], 0, []⟩ (.answering answers) []

/-- With two answers the third call is the login that issues the token; with one answer both fetches are
made and no login. -/
theorem acquireToken_isOrderly_signing :
    (∀ answers, (VaultOperations.answering answers).FailAsVault) ∧
      (∃ front path body token,
        (signing ["\x7b\"access_token\":\"a\"\x7d", "\x7b\"signedJwt\":\"j\"\x7d"]).calls =
          front ++ [.login path body token] ∧ front.length = 2) ∧
      ∃ requests : List ExternalRequest,
        (signing ["\x7b\"access_token\":\"a\"\x7d"]).calls = requests.map .fetch ∧
          requests.length = 2 := by
  have orderly (answers : List String) :
      (signing answers).IsOrderly signingSettings (.answering answers) [] :=
    acquireToken_isOrderly _ _ (VaultOperations.answering_failAsVault answers) []
  refine ⟨VaultOperations.answering_failAsVault, ?_, ?_⟩
  · generalize answers : ["\x7b\"access_token\":\"a\"\x7d", "\x7b\"signedJwt\":\"j\"\x7d"] = both
    have succeeds : (signing both).outcome = .ok "s.issued" := by
      refine eq_ok_of_toOption ?_
      rw [← answers]
      decide +kernel
    have three : (signing both).calls.length = 3 := by
      rw [← answers]
      decide +kernel
    obtain ⟨front, path, body, token, calls⟩ | ⟨isGiven, _⟩ := (orderly both).given _ succeeds
    · refine ⟨front, path, body, token, calls, ?_⟩
      simpa [calls] using three
    · exact absurd isGiven (by decide)
  · generalize answers : ["\x7b\"access_token\":\"a\"\x7d"] = one
    have two : (signing one).calls.length = 2 := by
      rw [← answers]
      decide +kernel
    have fails : (signing one).outcome.toOption = none := by
      rw [← answers]
      decide +kernel
    obtain ⟨requests, logins, calls, atMostOne, areLogins⟩ := (orderly one).inOrder
    cases logins with
    | nil =>
        rw [List.append_nil] at calls
        exact ⟨requests, calls, by simpa [calls] using two⟩
    | cons last more =>
        -- A login would have decided the outcome.
        have noMore : more = [] :=
          List.length_eq_zero_iff.mp (Nat.le_zero.mp (Nat.le_of_succ_le_succ atMostOne))
        obtain ⟨path, body, token, rfl⟩ := areLogins last List.mem_cons_self
        rw [noMore] at calls
        have succeeds := (orderly one).issued _ path body token calls
        rw [succeeds] at fails
        cases fails

end Acquisition

end RemoteConfig
