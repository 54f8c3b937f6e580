import RemoteConfig.Proofs.Client.LabelOrder

/-!
Contract: whether a resolution makes a request at all.

Owns:
- when the headers that all requests share may be sent;
- the first request of a resolution, which no answer has a part in;
- what a resolution needs for a request: headers that may be sent, and the rest of the request to
  the first server under the first label.

Does not own: the requests behind the first one.
-/

namespace RemoteConfig

namespace ConfigRequest

theorem forM_checkHeader_eq_ok_iff (headers : List (String × String)) :
    headers.forM checkHeader = .ok () ↔ ∀ header ∈ headers, checkHeader header = .ok () := by
  induction headers with
  | nil => simp [pure, Except.pure]
  | cons header others inductionHypothesis =>
      rw [List.forall_mem_cons, ← inductionHypothesis]
      constructor
      · intro succeeds
        obtain ⟨_, first, later⟩ := bind_eq_ok succeeds
        exact ⟨first, later⟩
      · rintro ⟨first, later⟩
        show (checkHeader header).bind (fun _ => others.forM checkHeader) = .ok ()
        rw [first]
        exact later

/-- There are shared headers exactly when each header may be sent. -/
theorem exists_sharedHeaders_iff (settings : ClientSettings) (state : Option String) :
    (∃ shared, sharedHeaders settings state = .ok shared) ↔
      ∀ header ∈ builtInHeaders settings state ++ settings.headers,
        checkHeader header = .ok () := by
  have inOrder : (∀ header ∈ builtInHeaders settings state ++ settings.headers,
        checkHeader header = .ok ()) ↔
      ∀ header ∈ builtInHeaders settings state ++ customHeaders settings,
        checkHeader header = .ok () := by
    simp only [List.mem_append, mem_customHeaders]
  rw [inOrder, ← forM_checkHeader_eq_ok_iff]
  constructor
  · rintro ⟨shared, valid⟩
    obtain ⟨_, checked, _⟩ := bind_eq_ok valid
    exact checked
  · intro checked
    refine ⟨builtInHeaders settings state ++
      (customHeaders settings).filter fun header => !isAuthorization header, ?_⟩
    show ((builtInHeaders settings state ++ customHeaders settings).forM checkHeader).bind _ = _
    rw [checked]
    rfl

end ConfigRequest

namespace Walk

variable {transport : Transport} {resource : ConfigResource} {context : LoadContext}
  {history : List ConfigRequest}

theorem head?_along (transport : Transport) (strategy : UriStrategy) (history : List ConfigRequest)
    (places : List Place) :
    (along transport strategy history places).1.head? =
      places.head?.bind fun place => place.request.toOption := by
  cases places with
  | nil => rfl
  | cons place others =>
      cases prepared : place.request with
      | error error => simp [along_cons_error prepared, prepared, Except.toOption]
      | ok request =>
          by_cases passes : Passes strategy place.isLast (transport (history ++ [request]))
          · simp [along_cons_pass prepared passes, prepared, Except.toOption]
          · simp [along_cons_stop prepared passes, prepared, Except.toOption]

/-- The first position is the first server under the first label, if there is a server. -/
theorem route_cases (resource : ConfigResource) (context : LoadContext) :
    (route resource context = [] ∧ (servers resource context).length = 0) ∨
      ∃ others, route resource context = (0, 0) :: others := by
  have someLabel : 0 < resource.settings.candidateLabels.length :=
    List.length_pos_iff.mpr (candidateLabels_ne_nil resource.settings)
  unfold route
  rw [positions_eq_map]
  rcases Nat.eq_zero_or_pos (servers resource context).length with noServer | someServer
  · exact .inl ⟨by simp [noServer], noServer⟩
  · obtain ⟨others, count⟩ := Nat.exists_eq_succ_of_ne_zero
      (Nat.ne_of_gt (Nat.mul_pos someLabel someServer))
    rw [count, List.range_succ_eq_map, List.map_cons, Nat.zero_div, Nat.zero_mod]
    exact .inr ⟨_, rfl⟩

theorem credentials_of_noServer {targets : ServerTargets} (noServer : targets.length = 0)
    (index : Nat) : ∃ error, targets.credentials index = .error error := by
  have absent : targets.uris[index]? = none := by
    have noUri : targets.uris = [] := List.length_eq_zero_iff.mp noServer
    simp [noUri]
  cases targets with
  | configured settings =>
      have stands : settings.uris[index]? = none := absent
      simp [ServerTargets.credentials, ClientSettings.credentials, stands]
  | discovered instances =>
      have stands : instances.uris[index]? = none := absent
      simp [ServerTargets.credentials, stands]

variable (transport resource context history) in
/-- The first request of a resolution is the one to the first server under the first label. -/
theorem head?_locate :
    (Resolve.locate transport resource context history).requests.head? =
      (planned resource context (0, 0)).toOption := by
  cases headers : ConfigRequest.sharedHeaders resource.settings context.state with
  | error error =>
      rw [(locate_of_headers_error transport history headers).1, planned, headers]
      rfl
  | ok shared =>
      have search := congrArg Prod.fst (locate_eq_along transport resource context history)
      have requests : (Resolve.locate transport resource context history).requests =
          (along transport resource.settings.strategy history
            ((route resource context).map (placeAt resource context))).1 := by
        rw [← places_eq_map headers]
        exact search
      rw [requests, head?_along]
      rcases route_cases resource context with ⟨noPosition, noServer⟩ | ⟨others, isFirst⟩
      · obtain ⟨error, fails⟩ := credentials_of_noServer noServer 0
        have noPlan : planned resource context (0, 0) = .error error := by
          simp [planned, headers, ask, fails, Except.bind]
        simp [noPosition, noPlan, Except.toOption]
      · rw [isFirst]
        rfl

/-- The shared headers stand in front of the rest of a request, which does not depend on them. -/
theorem ask_eq_map (settings : ClientSettings) (targets : ServerTargets) (query : EnvironmentQuery)
    (shared : List (String × String)) (server : Nat) :
    ask settings targets query shared server =
      (ask settings targets query [] server).map fun request =>
        { request with headers := shared ++ request.headers } := by
  unfold ask
  cases targets.credentials server with
  | error error => rfl
  | ok credentials =>
      show (ConfigRequest.environmentUrl credentials.uri query).bind _ =
        Except.map _ ((ConfigRequest.environmentUrl credentials.uri query).bind _)
      cases ConfigRequest.environmentUrl credentials.uri query with
      | error error => rfl
      | ok url =>
          show (ConfigRequest.authorization settings credentials).bind _ =
            Except.map _ ((ConfigRequest.authorization settings credentials).bind _)
          cases ConfigRequest.authorization settings credentials <;> rfl

/-- A request needs headers that may be sent, and what does not depend on them. -/
theorem exists_planned_iff (position : Nat × Nat) :
    (∃ request, planned resource context position = .ok request) ↔
      (∃ shared, ConfigRequest.sharedHeaders resource.settings context.state = .ok shared) ∧
        ∃ request, ask resource.settings (servers resource context)
          (labelQuery resource (resource.settings.candidateLabels.getD position.1 "")) []
          position.2 = .ok request := by
  unfold planned
  constructor
  · rintro ⟨request, plan⟩
    obtain ⟨shared, valid, asked⟩ := bind_eq_ok plan
    rw [ask_eq_map] at asked
    obtain ⟨rest, isRest, _⟩ := map_eq_ok asked
    exact ⟨⟨shared, valid⟩, rest, isRest⟩
  · rintro ⟨⟨shared, valid⟩, rest, isRest⟩
    refine ⟨{ rest with headers := shared ++ rest.headers }, ?_⟩
    rw [valid, Except.bind, ask_eq_map, isRest]
    rfl

/-- A resolution makes a request exactly when there is one for its first position. -/
theorem requests_ne_nil_iff (loader : Loader) (history : List ConfigRequest)
    (resource : ConfigResource) (context : LoadContext) :
    (loader.resolve history ⟨resource, context⟩).requests ≠ [] ↔
      ∃ request, planned resource context (0, 0) = .ok request := by
  rw [loader.resolve_requests]
  have first := head?_locate loader.transport resource context history
  rw [ne_eq, ← List.head?_eq_none_iff, first]
  cases planned resource context (0, 0) <;> simp [Except.toOption]

end Walk

end RemoteConfig
