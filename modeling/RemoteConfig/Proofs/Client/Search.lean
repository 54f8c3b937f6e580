import RemoteConfig.Proofs.Client.Walk

/-!
Contract: the nested walks of a resolution, over labels and over servers, as one flat walk.

Owns:
- the places of a label and of all labels, in order;
- the equality of the search of a resolution with the flat walk over these places;
- the requests and the outcome of a resolution in terms of those of its search.

Does not own: what a flat walk says about the answers.
-/

namespace RemoteConfig.Walk

/-! ### The walk over the servers of one label -/

/-- The place of a server, given how many servers there are and what is asked of each. -/
def serverPlace (ask : Nat → Except FetchError ConfigRequest) (count server : Nat) : Place :=
  ⟨ask server, server + 1 == count⟩

/-- What a label asks of a server, under headers that are already checked. -/
def ask (settings : ClientSettings) (targets : ServerTargets) (query : EnvironmentQuery)
    (shared : List (String × String)) (server : Nat) : Except FetchError ConfigRequest :=
  (targets.credentials server).bind fun credentials =>
    ConfigRequest.build settings shared credentials query

/-- The places of a label. Headers that may not be sent leave one place without a request. -/
def labelPlaces (settings : ClientSettings) (targets : ServerTargets) (query : EnvironmentQuery)
    (state : Option String) : List Place :=
  match ConfigRequest.sharedHeaders settings state with
  | .error error => [⟨.error error, true⟩]
  | .ok shared =>
    (List.range targets.length).map
      (serverPlace (ask settings targets query shared) targets.length)

/-- The requests of a search and its outcome, without the reports. -/
def summary (fetched : Fetched) : List ConfigRequest × Except FetchError (Option Environment) :=
  (fetched.requests, fetched.outcome)

theorem summary_after (request : ConfigRequest) (logs : List LogLine) (rest : Fetched) :
    summary (rest.after request logs) = (request :: (summary rest).1, (summary rest).2) :=
  rfl

/-- The requests of a flat walk and the outcome of its ending. -/
def concluded (walked : List ConfigRequest × Ending) :
    List ConfigRequest × Except FetchError (Option Environment) :=
  (walked.1, walked.2.outcome)

/-! ### The reports about one request -/

/-- What is reported about a failure after which a walk goes on. -/
def failureValues (uri : String) (answer : Except TransportFailure HttpReply) :
    List (String × String) :=
  match Fetch.interpret uri answer with
  | .ok _ => []
  | .error (.notFound _) => []
  | .error error => [("error", error.message)]

/-- The reports about a request, which name the server as it is written once it is passed. -/
def requestLines (strategy : UriStrategy) (isLast : Bool) (written uri : String)
    (answer : Except TransportFailure HttpReply) : List LogLine :=
  .debug "Fetching environment" [("uri", uri)] ::
    if Passes strategy isLast answer then
      [Fetch.goesOn (("uri", written) :: failureValues uri answer)]
    else []

section Servers

variable {transport : Transport} {settings : ClientSettings} {targets : ServerTargets}
  {query : EnvironmentQuery} {shared : List (String × String)} {history : List ConfigRequest}
  {server : Nat} {others : List Nat} {request : ConfigRequest}

/-- A passed request is reported, and the walk goes on with the other servers. -/
theorem fetchWalk_cons_pass (asked : ask settings targets query shared server = .ok request)
    (passes : Passes settings.strategy others.isEmpty (transport (history ++ [request]))) :
    Fetch.walk transport settings targets query shared history (server :: others) =
      .after request
        (requestLines settings.strategy others.isEmpty (targets.writtenUri server) request.url.text
          (transport (history ++ [request])))
        (Fetch.walk transport settings targets query shared (history ++ [request]) others) := by
  have isPassed := passes
  rw [passes_iff_interpret settings.strategy others.isEmpty request.url.text] at isPassed
  obtain ⟨error, read, goesOn⟩ := isPassed
  unfold ask at asked
  simp only [Fetch.walk, asked, read, requestLines, if_pos passes, failureValues]
  rcases goesOn with ⟨unknown, isUnknown⟩ | ⟨notLast, tries⟩
  · subst isUnknown
    rfl
  · cases error <;> simp [notLast, tries]

/-- A request that is not passed is the last one. -/
theorem fetchWalk_cons_stop (asked : ask settings targets query shared server = .ok request)
    (stops : ¬ Passes settings.strategy others.isEmpty (transport (history ++ [request]))) :
    Fetch.walk transport settings targets query shared history (server :: others) =
      .after request
        (requestLines settings.strategy others.isEmpty (targets.writtenUri server) request.url.text
          (transport (history ++ [request])))
        (.ended (settled request.url.text (transport (history ++ [request]))).outcome) := by
  have isStopped := stops
  rw [passes_iff_interpret settings.strategy others.isEmpty request.url.text] at isStopped
  unfold ask at asked
  simp only [requestLines, if_neg stops]
  cases read : Fetch.interpret request.url.text (transport (history ++ [request])) with
  | ok environment => simp [Fetch.walk, asked, read, settled, Ending.outcome]
  | error error =>
      simp only [read, Except.error.injEq, exists_eq_left', not_or, not_exists, not_and] at isStopped
      obtain ⟨notUnknown, gives⟩ := isStopped
      have giveUp : (!others.isEmpty && Fetch.triesNext error settings.strategy) = false := by
        cases isEmpty : others.isEmpty with
        | true => simp
        | false => simpa using gives isEmpty
      simp only [Fetch.walk, asked, read, settled, Ending.outcome]
      cases error with
      | notFound uri => exact absurd rfl (notUnknown uri)
      | serverError _ _ _ _ => simp [giveUp]
      | transport _ _ => simp [giveUp]
      | malformedResponse _ => simp [giveUp]
      | invalidUri _ _ => simp [giveUp]
      | configuration _ => simp [giveUp]

end Servers

private theorem fetchWalk_eq_along (transport : Transport) (settings : ClientSettings)
    (targets : ServerTargets) (query : EnvironmentQuery) (shared : List (String × String))
    (history : List ConfigRequest) (start length : Nat) :
    summary (Fetch.walk transport settings targets query shared history
        (List.range' start length)) =
      concluded (along transport settings.strategy history
        ((List.range' start length).map
          (serverPlace (ask settings targets query shared) (start + length)))) := by
  induction length generalizing start history with
  | zero => rfl
  | succ length inductionHypothesis =>
      rw [List.range'_succ, List.map_cons]
      have count : start + 1 + length = start + (length + 1) := by omega
      cases asked : ask settings targets query shared start with
      | error error =>
          have unprepared : (serverPlace (ask settings targets query shared) (start + (length + 1))
              start).request = .error error := by
            simp [serverPlace, asked]
          rw [along_cons_error unprepared]
          unfold ask at asked
          simp [Fetch.walk, asked, summary, concluded, Fetched.ended, Ending.outcome]
      | ok request =>
          have prepared :
              (serverPlace (ask settings targets query shared) (start + (length + 1)) start).request =
                .ok request := by
            simp [serverPlace, asked]
          have isLast : (serverPlace (ask settings targets query shared)
              (start + (length + 1)) start).isLast = (List.range' (start + 1) length).isEmpty := by
            cases length <;> simp [serverPlace, List.range'_succ]
          have rest := inductionHypothesis (history ++ [request]) (start + 1)
          rw [count] at rest
          by_cases passes : Passes settings.strategy (List.range' (start + 1) length).isEmpty
              (transport (history ++ [request]))
          · rw [fetchWalk_cons_pass asked passes, along_cons_pass prepared (isLast ▸ passes),
              summary_after, rest]
            rfl
          · rw [fetchWalk_cons_stop asked passes, along_cons_stop prepared (isLast ▸ passes)]
            rfl

/-- Fetching under a label is the flat walk over the places of the label. -/
theorem fetchRun_eq_along (transport : Transport) (settings : ClientSettings)
    (targets : ServerTargets) (query : EnvironmentQuery) (state : Option String)
    (history : List ConfigRequest) :
    summary (Fetch.run transport settings targets query state history) =
      concluded (along transport settings.strategy history
        (labelPlaces settings targets query state)) := by
  unfold Fetch.run labelPlaces
  cases ConfigRequest.sharedHeaders settings state with
  | error error => simp [along, summary, concluded, Fetched.ended, Ending.outcome]
  | ok shared =>
      simpa [List.range_eq_range'] using
        fetchWalk_eq_along transport settings targets query shared history 0 targets.length

/-! ### The walk over the labels -/

/-- What a label asks for. -/
def labelQuery (resource : ConfigResource) (label : String) : EnvironmentQuery :=
  ⟨resource.settings.name, resource.profiles, Text.trim label⟩

/-- The servers of a resolution. -/
def servers (resource : ConfigResource) (context : LoadContext) : ServerTargets :=
  (Resolve.targets resource.settings context).1

/-- The places of some labels, one label after the other. -/
def places (resource : ConfigResource) (context : LoadContext) (labels : List String) :
    List Place :=
  labels.flatMap fun label =>
    labelPlaces resource.settings (servers resource context) (labelQuery resource label)
      context.state

/-- Whether a client fails fast and how it goes on after a failure are nothing that a request shows. -/
theorem labelPlaces_tuned (settings : ClientSettings) (context : LoadContext)
    (query : EnvironmentQuery) (state : Option String) (failFast : Bool) (strategy : UriStrategy) :
    labelPlaces { settings with failFast, strategy }
        (Resolve.targets { settings with failFast, strategy } context).1 query state =
      labelPlaces settings (Resolve.targets settings context).1 query state := by
  -- Configured servers hold the settings themselves, so only what is read from them is the same.
  have sameTargets :
      (Resolve.targets { settings with failFast, strategy } context).1.length =
          (Resolve.targets settings context).1.length ∧
        (Resolve.targets { settings with failFast, strategy } context).1.credentials =
          (Resolve.targets settings context).1.credentials := by
    unfold Resolve.targets
    dsimp only
    split
    · split <;> exact ⟨rfl, rfl⟩
    · exact ⟨rfl, rfl⟩
  have asked (shared : List (String × String)) :
      ask { settings with failFast, strategy }
          (Resolve.targets { settings with failFast, strategy } context).1 query shared =
        ask settings (Resolve.targets settings context).1 query shared := by
    funext server
    unfold ask
    rw [sameTargets.2]
    rfl
  unfold labelPlaces
  simp only [asked, sameTargets.1]
  rfl

theorem places_cons (resource : ConfigResource) (context : LoadContext) (label : String)
    (others : List String) :
    places resource context (label :: others) =
      labelPlaces resource.settings (servers resource context) (labelQuery resource label)
        context.state ++ places resource context others := by
  simp [places]

/-- A search that goes on when nothing was fetched, after the requests that were made. -/
def followedBy (fetched : Fetched) (rest : List ConfigRequest → Fetched) : Fetched :=
  match fetched.outcome with
  | .ok none =>
    ⟨fetched.requests ++ (rest fetched.requests).requests,
      fetched.logs ++ (rest fetched.requests).logs, (rest fetched.requests).outcome⟩
  | _ => fetched

theorem walkLabels_cons (transport : Transport) (resource : ConfigResource)
    (targets : ServerTargets) (state : Option String) (history : List ConfigRequest)
    (label : String) (others : List String) :
    Resolve.walkLabels transport resource.settings targets resource.profiles state history
        (label :: others) =
      followedBy
        (Fetch.run transport resource.settings targets (labelQuery resource label) state history)
        (fun made => Resolve.walkLabels transport resource.settings targets resource.profiles state
          (history ++ made) others) :=
  (rfl)

theorem followedBy_exhausted {fetched : Fetched} (exhausted : fetched.outcome = .ok none)
    (rest : List ConfigRequest → Fetched) :
    followedBy fetched rest =
      ⟨fetched.requests ++ (rest fetched.requests).requests,
        fetched.logs ++ (rest fetched.requests).logs, (rest fetched.requests).outcome⟩ := by
  simp [followedBy, exhausted]

theorem followedBy_stopped {fetched : Fetched} (stopped : fetched.outcome ≠ .ok none)
    (rest : List ConfigRequest → Fetched) : followedBy fetched rest = fetched := by
  unfold followedBy
  split
  · exact absurd ‹_› stopped
  · rfl

private theorem summary_followedBy_exhausted {fetched : Fetched} {made : List ConfigRequest}
    (ends : summary fetched = (made, .ok none)) (rest : List ConfigRequest → Fetched) :
    summary (followedBy fetched rest) = (made ++ (summary (rest made)).1, (summary (rest made)).2) := by
  simp only [summary, Prod.mk.injEq] at ends
  rw [followedBy_exhausted ends.2, ends.1]
  rfl

private theorem walkLabels_eq_along (transport : Transport) (resource : ConfigResource)
    (context : LoadContext) (history : List ConfigRequest) (labels : List String) :
    summary (Resolve.walkLabels transport resource.settings (servers resource context)
        resource.profiles context.state history labels) =
      concluded (along transport resource.settings.strategy history
        (places resource context labels)) := by
  induction labels generalizing history with
  | nil => rfl
  | cons label others inductionHypothesis =>
      have fetched := fetchRun_eq_along transport resource.settings (servers resource context)
        (labelQuery resource label) context.state history
      rw [walkLabels_cons, places_cons]
      by_cases exhausted : (along transport resource.settings.strategy history
          (labelPlaces resource.settings (servers resource context) (labelQuery resource label)
            context.state)).2 = .exhausted
      · have ends := fetched
        rw [concluded, exhausted] at ends
        rw [summary_followedBy_exhausted ends, inductionHypothesis,
          along_append_of_exhausted exhausted]
        rfl
      · have stopped : (Fetch.run transport resource.settings (servers resource context)
            (labelQuery resource label) context.state history).outcome ≠ .ok none := by
          intro none
          have ends := (congrArg Prod.snd fetched).symm.trans none
          exact exhausted ((Ending.outcome_eq_none_iff _).mp ends)
        rw [followedBy_stopped stopped, fetched, along_append_of_stopped exhausted]

/-- The search of a resolution is the flat walk over the places of its labels. -/
theorem locate_eq_along (transport : Transport) (resource : ConfigResource)
    (context : LoadContext) (history : List ConfigRequest) :
    summary (Resolve.locate transport resource context history) =
      concluded (along transport resource.settings.strategy history
        (places resource context resource.settings.candidateLabels)) :=
  walkLabels_eq_along transport resource context history resource.settings.candidateLabels

end RemoteConfig.Walk

namespace RemoteConfig.Resolve

/-- The outcome of a resolution whose search ended in the given way. -/
def conclusion (resource : ConfigResource) :
    Except FetchError (Option Environment) → Except ConfigError (Option ConfigData)
  | .ok (some environment) =>
    .ok (some (ConfigData.assemble environment resource.acceptedProfiles))
  | .ok none => giveUp (Unresolved.exhausted resource.settings.candidateLabels)
  | .error error => giveUp (Unresolved.failed error)
where
  /-- The outcome of a search without a result. -/
  giveUp (unresolved : Unresolved) : Except ConfigError (Option ConfigData) :=
    match Unresolved.insistence? resource with
    | some insistence => .error (.failFast insistence unresolved.detail unresolved.error)
    | none => .ok none

theorem giveUp_ne_some (resource : ConfigResource) (unresolved : Unresolved) (data : ConfigData) :
    conclusion.giveUp resource unresolved ≠ .ok (some data) := by
  unfold conclusion.giveUp
  split <;> simp

/-- A resolution succeeds exactly when its search located an environment. -/
theorem conclusion_eq_some_iff (resource : ConfigResource)
    (outcome : Except FetchError (Option Environment)) (data : ConfigData) :
    conclusion resource outcome = .ok (some data) ↔
      ∃ environment, outcome = .ok (some environment) ∧
        data = ConfigData.assemble environment resource.acceptedProfiles := by
  cases outcome with
  | error error => simp [conclusion, giveUp_ne_some]
  | ok found =>
      cases found with
      | none => simp [conclusion, giveUp_ne_some]
      | some environment => simp [conclusion, eq_comm]

theorem concluded_outcome (fetched : Fetched) (unresolved : Unresolved)
    (resource : ConfigResource) :
    (run.concluded fetched unresolved resource).outcome = conclusion.giveUp resource unresolved := by
  unfold run.concluded conclusion.giveUp Unresolved.conclude
  cases Unresolved.insistence? resource <;> rfl

variable (transport : Transport) (history : List ConfigRequest) (request : LoadRequest)

theorem run_requests :
    (run transport history request).requests =
      (locate transport request.resource request.context history).requests := by
  unfold run
  simp only
  split <;> rfl

theorem run_outcome :
    (run transport history request).outcome =
      conclusion request.resource
        (locate transport request.resource request.context history).outcome := by
  unfold run
  simp only
  split
  · rename_i found
    rw [found]
    rfl
  · rename_i exhausted
    rw [exhausted]
    exact concluded_outcome ..
  · rename_i failed
    rw [failed]
    exact concluded_outcome ..

end RemoteConfig.Resolve

namespace RemoteConfig.Loader

variable (loader : Loader) (history : List ConfigRequest) (request : LoadRequest)

/-- A loader makes the requests of the search. -/
theorem resolve_requests :
    (loader.resolve history request).requests =
      (Resolve.locate loader.transport request.resource request.context history).requests := by
  rw [← Resolve.run_requests]
  unfold resolve
  split <;> rfl

/-- The outcome of a loader is decided by that of the search. -/
theorem resolve_outcome :
    (loader.resolve history request).outcome =
      Resolve.conclusion request.resource
        (Resolve.locate loader.transport request.resource request.context history).outcome := by
  rw [← Resolve.run_outcome]
  unfold resolve
  split <;> rfl

end RemoteConfig.Loader
