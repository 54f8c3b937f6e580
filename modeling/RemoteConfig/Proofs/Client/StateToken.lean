import Mathlib.Data.List.Induction
import RemoteConfig.Client.State
import RemoteConfig.Proofs.Client.Isolation
import RemoteConfig.Proofs.Client.Lookup

/-!
Contract: the state token over runs of a client.

Owns:
- runs of steps that set the token, forget it, or resolve something with it and record what comes
  back;
- the tokens that the requests of a resolution carry;
- `run_carriesState`: requests carry the current token and no other, and the current token is the
  one that the last step with a token of its own has left.

Does not own: tokens that may not be sent.
-/

namespace RemoteConfig

/-- What is done with the state token. A resolution has its loader, the requests that were made
before it, and the servers that were discovered for it. -/
inductive StateStep where
  | set (token : String)
  | clear
  | resolve (loader : Loader) (history : List ConfigRequest)
    (discovered : Option DiscoveredInstances) (resource : ConfigResource)

namespace ClientState

/-- The context of a resolution with the current token. -/
def contextWith (state : ClientState) (discovered : Option DiscoveredInstances) : LoadContext :=
  { state.snapshot with discovered := discovered }

/-- The state after the end of a resolution, which is recorded when it succeeds. -/
def afterOutcome (state : ClientState) : Except ConfigError (Option ConfigData) → ClientState
  | .ok (some data) => state.record data
  | _ => state

def step (state : ClientState) : StateStep → ClientState
  | .set token => state.set token
  | .clear => state.clear
  | .resolve loader history discovered resource =>
    state.afterOutcome (loader.resolve history ⟨resource, state.contextWith discovered⟩).outcome

/-- The state after some steps. -/
def after (state : ClientState) (steps : List StateStep) : ClientState :=
  steps.foldl step state

/-- A step after a state leaves a token, or none, of its own: the one that it sets, none when it
clears, and the state with text of the environment that a server has answered a resolution with. -/
def Leaves (state : ClientState) : StateStep → Option String → Prop
  | .set token, left => left = some token
  | .clear, left => left = none
  | .resolve loader history discovered resource, left =>
    ∃ environment token,
      Walk.Locates loader.transport history
        (Resolve.locate loader.transport resource (state.contextWith discovered) history)
        environment ∧
      environment.state = some token ∧ Text.hasText token = true ∧ left = some token

/-- The step of a run at a position leaves a token, or none, of its own. -/
def LeavesAt (start : ClientState) (steps : List StateStep) (number : Nat) (left : Option String) :
    Prop :=
  ∃ step, steps[number]? = some step ∧ (start.after (steps.take number)).Leaves step left

/-- The last step of a run that leaves anything of its own leaves the given token, or no step leaves
anything and it is the token of the start. -/
def LastLeft (start : ClientState) (steps : List StateStep) (left : Option String) : Prop :=
  (∃ last, start.LeavesAt steps last left ∧
    ∀ later > last, ∀ token, ¬ start.LeavesAt steps later token) ∨
  (left = start.current ∧ ∀ number token, ¬ start.LeavesAt steps number token)

end ClientState

/-! ### The token in a request -/

namespace ConfigRequest

/-- Is the header the one for the state, under any letter case? -/
def isState (header : String × String) : Bool :=
  Text.sameLetters header.1 stateHeader

/-- The values under which a request carries a state. -/
def stateTokens (request : ConfigRequest) : List String :=
  (request.headers.filter isState).map Prod.snd

/-- The headers for the state among those that do not come from the custom ones. -/
def stateHeaders (settings : ClientSettings) (state : Option String) : List (String × String) :=
  if settings.sendState then (Text.nonBlank state).toList.map fun value => (stateHeader, value)
  else []

theorem builtInHeaders_eq_append (settings : ClientSettings) (state : Option String) :
    builtInHeaders settings state =
      builtInHeaders settings none ++ stateHeaders settings state := by
  unfold builtInHeaders stateHeaders
  cases settings.sendState <;> simp [Text.nonBlank]

theorem filter_builtInHeaders (settings : ClientSettings) (state : Option String) :
    (builtInHeaders settings state).filter isState = stateHeaders settings state := by
  have names : ∀ name ∈ ["Accept", "Accept-Charset", tokenHeader],
      Text.sameLetters name stateHeader = false := by decide
  have isOwn : Text.sameLetters stateHeader stateHeader = true := by simp [Text.sameLetters]
  unfold builtInHeaders stateHeaders
  cases Text.nonBlank settings.token <;> cases Text.nonBlank state <;> cases settings.sendState <;>
    simp_all [isState]

/-- Where the custom headers name no state, a request carries the given one if it is sent and has
text. -/
theorem stateTokens_of_build {settings : ClientSettings} {state : Option String}
    {shared : List (String × String)} (valid : sharedHeaders settings state = .ok shared)
    (custom : ∀ header ∈ settings.headers, isState header = false) {credentials : Credentials}
    {query : EnvironmentQuery} {request : ConfigRequest}
    (made : build settings shared credentials query = .ok request) :
    request.stateTokens =
      if settings.sendState then (Text.nonBlank state).toList else [] := by
  have isOther : ∀ value : String, isState (authorizationHeader, value) = false := by
    have name : Text.sameLetters authorizationHeader stateHeader = false := by decide
    intro value
    simp [isState, name]
  obtain ⟨_, _, isShared⟩ := bind_eq_ok valid
  cases isShared
  have noCustom : ((customHeaders settings).filter fun header => !isAuthorization header).filter
      isState = [] := by
    rw [List.filter_eq_nil_iff]
    intro header member
    simp [custom header (mem_customHeaders.mp (List.mem_filter.mp member).1)]
  rw [stateTokens, (parts_of_build made).2, List.filter_append, List.filter_append,
    filter_builtInHeaders, noCustom, stateHeaders]
  cases settings.sendState <;> cases Text.nonBlank state <;>
    cases authorizationOf? settings.headers credentials.username credentials.password <;>
      simp [isOther]

end ConfigRequest

namespace Walk

/-- All requests of a resolution carry the state of its context alike. -/
theorem stateTokens_of_resolve {loader : Loader} {history : List ConfigRequest}
    {resource : ConfigResource} {context : LoadContext}
    (custom : ∀ header ∈ resource.settings.headers, ConfigRequest.isState header = false)
    {request : ConfigRequest}
    (member : request ∈ (loader.resolve history ⟨resource, context⟩).requests) :
    request.stateTokens =
      if resource.settings.sendState then (Text.nonBlank context.state).toList else [] := by
  rw [loader.resolve_requests] at member
  obtain ⟨number, made⟩ := List.mem_iff_getElem?.mp member
  obtain ⟨_, _, valid, _, built⟩ := parts_of_planned (planned_of_request made)
  exact ConfigRequest.stateTokens_of_build valid custom built

/-- A resolution succeeds exactly when a server has answered with an environment. -/
theorem resolve_eq_some_iff {loader : Loader} {history : List ConfigRequest}
    {resource : ConfigResource} {context : LoadContext} {data : ConfigData} :
    (loader.resolve history ⟨resource, context⟩).outcome = .ok (some data) ↔
      ∃ environment, Locates loader.transport history
          (Resolve.locate loader.transport resource context history) environment ∧
        data = ConfigData.assemble environment resource.acceptedProfiles := by
  rw [loader.resolve_outcome, Resolve.conclusion_eq_some_iff]
  simp only [(locate_labelMajor loader.transport resource context history).located]

end Walk

/-! ### The current token -/

namespace ClientState

/-- Recording an environment takes over its state when that has text. -/
theorem current_record (state : ClientState) (environment : Environment) (accepted : List String) :
    (state.record (ConfigData.assemble environment accepted)).current =
      (Text.nonBlank environment.state).or state.current := by
  unfold record
  rw [ConfigData.state?, (ConfigData.markerText?_assemble environment accepted).1]
  cases Text.nonBlank environment.state <;> rfl

theorem afterOutcome_giveUp (state : ClientState) (resource : ConfigResource)
    (unresolved : Unresolved) :
    state.afterOutcome (Resolve.conclusion.giveUp resource unresolved) = state := by
  unfold Resolve.conclusion.giveUp
  split <;> rfl

/-- A resolution changes the token exactly when it has located an environment whose state has
text. -/
theorem current_step_resolve (state : ClientState) (loader : Loader) (history : List ConfigRequest)
    (discovered : Option DiscoveredInstances) (resource : ConfigResource) :
    (state.step (.resolve loader history discovered resource)).current =
      match (Resolve.locate loader.transport resource (state.contextWith discovered)
          history).outcome with
      | .ok (some environment) => (Text.nonBlank environment.state).or state.current
      | _ => state.current := by
  rw [step, loader.resolve_outcome]
  cases (Resolve.locate loader.transport resource (state.contextWith discovered)
      history).outcome with
  | error failure => rw [Resolve.conclusion, afterOutcome_giveUp]
  | ok found =>
      cases found with
      | none => rw [Resolve.conclusion, afterOutcome_giveUp]
      | some environment => exact state.current_record environment resource.acceptedProfiles

/-- What a resolution leaves is the state with text of the environment that it has located. -/
theorem leaves_resolve_iff (state : ClientState) (loader : Loader) (history : List ConfigRequest)
    (discovered : Option DiscoveredInstances) (resource : ConfigResource) (left : Option String) :
    state.Leaves (.resolve loader history discovered resource) left ↔
      ∃ environment token,
        (Resolve.locate loader.transport resource (state.contextWith discovered) history).outcome =
          .ok (some environment) ∧
        Text.nonBlank environment.state = some token ∧ left = some token := by
  have located := (Walk.locate_labelMajor loader.transport resource (state.contextWith discovered)
    history).located
  simp only [Leaves, located, Text.nonBlank, Option.filter_eq_some_iff, and_assoc]

/-- A step leaves its own token, or the one that was there. -/
theorem current_step_iff (state : ClientState) (next : StateStep) (left : Option String) :
    (state.step next).current = left ↔
      state.Leaves next left ∨ (left = state.current ∧ ∀ token, ¬ state.Leaves next token) := by
  cases next with
  | set token => simp [step, set, Leaves, eq_comm]
  | clear => simp [step, clear, Leaves, eq_comm]
  | resolve loader history discovered resource =>
      simp only [current_step_resolve, leaves_resolve_iff]
      cases outcome : (Resolve.locate loader.transport resource (state.contextWith discovered)
          history).outcome with
      | error failure => simp [eq_comm]
      | ok found =>
          cases found with
          | none => simp [eq_comm]
          | some environment =>
              cases text : Text.nonBlank environment.state <;> simp [text, eq_comm]

theorem after_append (state : ClientState) (steps : List StateStep) (next : StateStep) :
    state.after (steps ++ [next]) = (state.after steps).step next := by
  simp [after]

theorem lt_of_leavesAt {start : ClientState} {steps : List StateStep} {number : Nat}
    {left : Option String} (leaves : start.LeavesAt steps number left) : number < steps.length := by
  obtain ⟨step, stands, _⟩ := leaves
  exact (List.getElem?_eq_some_iff.mp stands).1

theorem leavesAt_append (start : ClientState) (steps : List StateStep) (next : StateStep)
    (number : Nat) (left : Option String) :
    start.LeavesAt (steps ++ [next]) number left ↔
      start.LeavesAt steps number left ∨
        (number = steps.length ∧ (start.after steps).Leaves next left) := by
  unfold LeavesAt
  rcases Nat.lt_trichotomy number steps.length with below | rfl | above
  · rw [List.getElem?_append_left below, List.take_append_of_le_length (by omega)]
    have notLast : number ≠ steps.length := by omega
    simp [notLast]
  · simp
  · have beyond : steps[number]? = none := List.getElem?_eq_none (by omega)
    have beyondNext : (steps ++ [next])[number]? = none := List.getElem?_eq_none (by simp; omega)
    have notLast : number ≠ steps.length := by omega
    simp [beyond, beyondNext, notLast]

/-- With one more step, the last one that leaves anything is that step or one before it. -/
theorem lastLeft_append_iff (start : ClientState) (steps : List StateStep) (next : StateStep)
    (left : Option String) :
    start.LastLeft (steps ++ [next]) left ↔ (start.after steps).Leaves next left ∨
      (start.LastLeft steps left ∧ ∀ token, ¬ (start.after steps).Leaves next token) := by
  simp only [LastLeft, leavesAt_append]
  constructor
  · rintro (⟨last, within | ⟨rfl, leaves⟩, silent⟩ | ⟨same, silent⟩)
    · have below := lt_of_leavesAt within
      refine .inr ⟨.inl ⟨last, within, ?_⟩, ?_⟩
      · intro later beyond token leaves
        exact silent later beyond token (.inl leaves)
      · intro token leaves
        exact silent steps.length below token (.inr ⟨rfl, leaves⟩)
    · exact .inl leaves
    · refine .inr ⟨.inr ⟨same, ?_⟩, ?_⟩
      · intro number token leaves
        exact silent number token (.inl leaves)
      · intro token leaves
        exact silent steps.length token (.inr ⟨rfl, leaves⟩)
  · rintro (leaves | ⟨⟨last, within, silent⟩ | ⟨same, silent⟩, quiet⟩)
    · refine .inl ⟨steps.length, .inr ⟨rfl, leaves⟩, ?_⟩
      rintro later beyond token (within | ⟨isLast, _⟩)
      · have := lt_of_leavesAt within
        omega
      · omega
    · refine .inl ⟨last, .inl within, ?_⟩
      rintro later beyond token (leaves | ⟨_, leaves⟩)
      · exact silent later beyond token leaves
      · exact quiet token leaves
    · refine .inr ⟨same, ?_⟩
      rintro number token (leaves | ⟨_, leaves⟩)
      · exact silent number token leaves
      · exact quiet token leaves

/-- The current token is the one that the last step with one of its own has left. -/
theorem current_after_iff (start : ClientState) (steps : List StateStep) (left : Option String) :
    (start.after steps).current = left ↔ start.LastLeft steps left := by
  induction steps using List.reverseRecOn generalizing left with
  | nil => simp [after, LastLeft, LeavesAt, eq_comm]
  | append_singleton steps next inductionHypothesis =>
      rw [after_append, current_step_iff, lastLeft_append_iff, ← inductionHypothesis,
        eq_comm (a := left)]

/-- Over every run, the requests of each resolution carry the token that is current at its start,
when it is sent and has text, and no other; and the current token is always the one that the last
step with one of its own has left, whatever the servers have served. -/
theorem run_carriesState (start : ClientState) (steps : List StateStep) (number : Nat) :
    (∀ token, (start.after (steps.take number)).current = token ↔
      start.LastLeft (steps.take number) token) ∧
    ∀ loader history discovered resource,
      steps[number]? = some (.resolve loader history discovered resource) →
      (∀ header ∈ resource.settings.headers, ConfigRequest.isState header = false) →
      ∀ request ∈ (loader.resolve history
          ⟨resource, (start.after (steps.take number)).contextWith discovered⟩).requests,
        request.stateTokens.length ≤ 1 ∧
          ∀ token, token ∈ request.stateTokens ↔
            resource.settings.sendState = true ∧ Text.hasText token = true ∧
              (start.after (steps.take number)).current = some token := by
  refine ⟨current_after_iff start (steps.take number), ?_⟩
  intro loader history discovered resource _ custom request member
  rw [Walk.stateTokens_of_resolve custom member]
  have state : ((start.after (steps.take number)).contextWith discovered).state =
      (start.after (steps.take number)).current := rfl
  rw [state]
  cases resource.settings.sendState with
  | false => simp
  | true =>
      constructor
      · cases Text.nonBlank (start.after (steps.take number)).current <;> simp
      · intro token
        simp [Text.nonBlank, Option.filter_eq_some_iff, and_comm]

/-- A server whose environments have a state without text, and a source that passes itself off as
one with a state. -/
def imitating : Loader :=
  ⟨fun _ => .ok ⟨200, none, "\x7b\"name\":\"configClient\",\"profiles\":[],\"state\":\" \","
    ++ "\"propertySources\":[\x7b\"name\":\"configClient\",\"source\":\x7b"
    ++ "\"config.client.state\":\"forged\"\x7d\x7d]\x7d"⟩, false, []⟩

/-- A resource with one server and no headers of its own. -/
def plain : ConfigResource :=
  .required { ClientSettings.defaults with uris := ["http://[::1]"] } []

/-- A token stays, and is sent, behind an environment that imitates a state. -/
theorem carriesState_imitated :
    LastLeft empty [.set "s1", .resolve imitating [] none plain] (some "s1") ∧
      ∃ request ∈ (Walk.unknowing.resolve [] ⟨plain,
          (empty.after [.set "s1", .resolve imitating [] none plain]).contextWith none⟩).requests,
        request.stateTokens.length ≤ 1 ∧ "s1" ∈ request.stateTokens := by
  obtain ⟨left, carries⟩ := run_carriesState empty
    [.set "s1", .resolve imitating [] none plain, .resolve Walk.unknowing [] none plain] 2
  have current : empty.after [.set "s1", .resolve imitating [] none plain] = ⟨some "s1"⟩ := by
    decide +kernel
  simp only [List.take_succ_cons, List.take_zero, current] at left carries
  refine ⟨(left _).mp rfl, ?_⟩
  rw [current]
  have made : (Walk.unknowing.resolve [] ⟨plain,
      (ClientState.mk (some "s1")).contextWith none⟩).requests ≠ [] := by decide +kernel
  obtain ⟨request, member⟩ := List.exists_mem_of_ne_nil _ made
  have noHeaders : plain.settings.headers = [] := rfl
  obtain ⟨atMostOne, exactly⟩ :=
    carries Walk.unknowing [] none plain rfl (by simp [noHeaders]) request member
  exact ⟨request, member, atMostOne, (exactly "s1").mpr ⟨rfl, by decide, rfl⟩⟩

end ClientState

end RemoteConfig
