import RemoteConfig.Proofs.Client.LabelOrder

/-!
Contract: what becomes of a search that located nothing.

Owns:
- a resource under another policy, and the search that does not see the policy;
- the searches that exhaust all labels, and the failures that stop a search;
- `resolution_failurePolicy`: who may go on without configuration, and what a failure reports.

Does not own: the answers at which a search stops.
-/

namespace RemoteConfig

/-- A resource under another policy: whether its client fails fast, and whether it may be missing. -/
def ConfigResource.withPolicy (resource : ConfigResource) (failFast isOptional : Bool) :
    ConfigResource :=
  { resource with
    settings := { resource.settings with failFast := failFast }
    isOptional := isOptional }

/-- A failure of status 500 to 599 whose answer is declared as a document, with its body. -/
def FetchError.IsDocumentError (error : FetchError) (body : String) : Prop :=
  ∃ uri status contentType, error = .serverError uri status (some contentType) body ∧
    500 ≤ status ∧ status < 600 ∧ declaresDocument contentType = true

theorem FetchError.documentBody?_eq_some_iff (error : FetchError) (body : String) :
    error.documentBody? = some body ↔ error.IsDocumentError body := by
  constructor
  · intro shows
    unfold documentBody? at shows
    split at shows
    · split at shows
      · rename_i isDocument
        cases shows
        exact ⟨_, _, _, rfl, isDocument.1, isDocument.2.1, isDocument.2.2⟩
      · cases shows
    · cases shows
  · rintro ⟨uri, status, contentType, rfl, atLeast, below, declares⟩
    simp [documentBody?, atLeast, below, declares]

namespace Walk

/-- Every label has ended without a result. -/
def Exhausts (transport : Transport) (resource : ConfigResource) (context : LoadContext)
    (history : List ConfigRequest) (search : Fetched) : Prop :=
  ∀ label < resource.settings.candidateLabels.length,
    LabelEnds transport resource context history search label

/-- What the message of a failed resolution says in the end. -/
inductive Detail where
  | body (text : String)
  | labels (tried : List String)
  | nothing

/-- The detail behind the last word of the message. -/
def Detail.text : Detail → String
  | body text => ": " ++ text
  | labels tried => ": " ++ ("None of labels [" ++ Text.join ", " tried ++ "] found")
  | nothing => ""

/-- How the failure of a resolution belongs to its search: it is of one variant only, its cause is
the failure that stopped the search, and its detail is chosen by that cause. -/
structure FailureReport (transport : Transport) (resource : ConfigResource)
    (context : LoadContext) (history : List ConfigRequest) (search : Fetched)
    (insistence : Insistence) (detail : Option String) (cause : Option FetchError) : Prop where
  stopped : ∀ failure, cause = some failure ↔
    StopsWith transport resource context history search failure
  exhausted : cause = none ↔ Exhausts transport resource context history search
  known : ∀ uri, cause ≠ some (.notFound uri)
  shown : ∃ shown : Detail,
    (ConfigError.failFast insistence detail cause).message =
      "Could not locate PropertySource and " ++
        (if resource.settings.failFast then "the fail fast property is set"
          else "the resource is not optional") ++ ", failing" ++ shown.text ∧
    (∀ body, shown = .body body ↔
      ∃ failure, cause = some failure ∧ failure.IsDocumentError body) ∧
    (∀ tried, shown = .labels tried ↔
      Exhausts transport resource context history search ∧
        tried = resource.settings.candidateLabels) ∧
    (shown = .nothing ↔ ∃ failure, cause = some failure ∧ ∀ body, ¬ failure.IsDocumentError body)

/-! ### The search does not see the policy -/

section Policy

variable {transport : Transport} {resource : ConfigResource} {context : LoadContext}
  {history : List ConfigRequest}

theorem labelPlaces_withPolicy (failFast isOptional : Bool) (query : EnvironmentQuery)
    (state : Option String) :
    labelPlaces (resource.withPolicy failFast isOptional).settings
        (servers (resource.withPolicy failFast isOptional) context) query state =
      labelPlaces resource.settings (servers resource context) query state :=
  labelPlaces_tuned resource.settings context query state failFast resource.settings.strategy

/-- Resolutions under different policies search in the same way. -/
theorem summary_locate_withPolicy (failFast isOptional : Bool) :
    summary (Resolve.locate transport (resource.withPolicy failFast isOptional) context history) =
      summary (Resolve.locate transport resource context history) := by
  rw [locate_eq_along, locate_eq_along]
  unfold places
  simp only [labelPlaces_withPolicy]
  rfl

end Policy

/-! ### How a search without a result ends -/

section Search

variable {transport : Transport} {resource : ConfigResource} {context : LoadContext}
  {history : List ConfigRequest}

theorem length_route (resource : ConfigResource) (context : LoadContext) :
    (route resource context).length =
      resource.settings.candidateLabels.length * (servers resource context).length := by
  simp [route, positions_eq_map]

/-- A search that ends without a failure and without a result has made all requests. -/
theorem length_requests_of_exhausted
    (exhausted : (Resolve.locate transport resource context history).outcome = .ok none) :
    (Resolve.locate transport resource context history).requests.length =
      (route resource context).length := by
  cases headers : ConfigRequest.sharedHeaders resource.settings context.state with
  | error reason =>
      obtain ⟨_, failed⟩ := locate_of_headers_error transport history headers
      simp [failed] at exhausted
  | ok shared =>
      obtain ⟨ending, outcome, report⟩ := locate_report transport history headers
      have isExhausted : ending = .exhausted :=
        (Ending.outcome_eq_none_iff ending).mp (outcome.symm.trans exhausted)
      simpa using report.exhausted isExhausted

/-- Behind the last position there is nothing but the end of all labels. -/
theorem comesTo_length_route_iff :
    ComesTo resource context (Resolve.locate transport resource context history)
        (route resource context).length ↔
      (Resolve.locate transport resource context history).outcome = .ok none := by
  have atMost : (Resolve.locate transport resource context history).requests.length ≤
      (route resource context).length := by
    simpa using (locate_labelMajor transport resource context history).inOrder.length_le
  constructor
  · rintro (below | ⟨_, exhausted | ⟨error, stands, _⟩⟩)
    · omega
    · exact exhausted
    · simp at stands
  · intro exhausted
    exact .inr ⟨(length_requests_of_exhausted exhausted).symm, .inl exhausted⟩

/-- A search that comes to a position has come to every earlier one. -/
theorem ComesTo.mono {search : Fetched} {earlier later : Nat}
    (comes : ComesTo resource context search later) (before : earlier ≤ later) :
    ComesTo resource context search earlier := by
  rcases comes with below | ⟨rfl, ending⟩
  · exact .inl (by omega)
  · rcases Nat.lt_or_eq_of_le before with below | same
    · exact .inl below
    · subst same
      exact .inr ⟨rfl, ending⟩

/-- All labels have ended exactly when the search ends without a failure and without a result. -/
theorem exhausts_iff :
    Exhausts transport resource context history
        (Resolve.locate transport resource context history) ↔
      (Resolve.locate transport resource context history).outcome = .ok none := by
  have labels := List.length_pos_iff.mpr (candidateLabels_ne_nil resource.settings)
  have labelEnds := (locate_labelMajor transport resource context history).labelEnds
  rw [← comesTo_length_route_iff, length_route]
  constructor
  · intro exhausts
    have last : resource.settings.candidateLabels.length - 1 <
        resource.settings.candidateLabels.length := by omega
    have comes := (labelEnds _ last).mpr (exhausts _ last)
    rwa [Nat.sub_add_cancel labels] at comes
  · intro comes label below
    exact (labelEnds label below).mp (comes.mono (Nat.mul_le_mul_right _ below))

/-- An unknown environment never stops a search. -/
theorem not_stopsWith_notFound (uri : String) :
    ¬ StopsWith transport resource context history
      (Resolve.locate transport resource context history) (.notFound uri) := by
  rintro (⟨request, position, _, _, stops, read⟩ | ⟨_, unprepared⟩ | ⟨_, headers⟩)
  · rw [passes_iff_interpret _ _ request.url.text] at stops
    exact stops ⟨_, read, .inl ⟨uri, rfl⟩⟩
  · rw [List.getElem?_map, Option.map_eq_some_iff] at unprepared
    obtain ⟨position, _, fails⟩ := unprepared
    exact isPreparation_of_planned fails
  · exact ConfigRequest.isPreparation_of_sharedHeaders headers

/-- Nothing was located exactly when the search ends with all labels or with a failure. -/
theorem not_locates_iff :
    (¬ ∃ environment, Locates transport history
        (Resolve.locate transport resource context history) environment) ↔
      (Resolve.locate transport resource context history).outcome = .ok none ∨
        ∃ failure, (Resolve.locate transport resource context history).outcome = .error failure := by
  have located := (locate_labelMajor transport resource context history).located
  simp only [← located]
  cases (Resolve.locate transport resource context history).outcome with
  | error failure => simp
  | ok found => cases found <;> simp

/-! ### The report of a failure -/

theorem reason_of_insistence {insistence : Insistence}
    (insists : Unresolved.insistence? resource = some insistence) :
    insistence.reason =
      if resource.settings.failFast then "the fail fast property is set"
      else "the resource is not optional" := by
  unfold Unresolved.insistence? at insists
  split at insists
  · rename_i failFast
    cases insists
    simp [Insistence.reason, failFast]
  · rename_i patient
    split at insists
    · cases insists
    · cases insists
      simp [Insistence.reason, patient]

theorem insistence?_eq_none_iff :
    Unresolved.insistence? resource = none ↔
      resource.isOptional = true ∧ resource.settings.failFast = false := by
  unfold Unresolved.insistence?
  cases resource.settings.failFast <;> cases resource.isOptional <;> simp

theorem message_failFast_some (insistence : Insistence) (detail : String)
    (cause : Option FetchError) :
    (ConfigError.failFast insistence (some detail) cause).message =
      "Could not locate PropertySource and " ++ insistence.reason ++ ", failing" ++
        (": " ++ detail) := by
  unfold ConfigError.message
  rfl

theorem message_failFast_none (insistence : Insistence) (cause : Option FetchError) :
    (ConfigError.failFast insistence none cause).message =
      "Could not locate PropertySource and " ++ insistence.reason ++ ", failing" ++ "" := by
  unfold ConfigError.message
  rfl

theorem failureReport_of_exhausted {insistence : Insistence}
    (insists : Unresolved.insistence? resource = some insistence)
    (exhausted : (Resolve.locate transport resource context history).outcome = .ok none) :
    FailureReport transport resource context history
      (Resolve.locate transport resource context history) insistence
      (Unresolved.exhausted resource.settings.candidateLabels).detail
      (Unresolved.exhausted resource.settings.candidateLabels).error where
  stopped failure := by
    rw [← (locate_labelMajor transport resource context history).failed, exhausted]
    simp [Unresolved.exhausted]
  exhausted := by
    rw [exhausts_iff, exhausted]
    simp [Unresolved.exhausted]
  known := by simp [Unresolved.exhausted]
  shown := by
    refine ⟨.labels resource.settings.candidateLabels, ?_, ?_, ?_, ?_⟩
    · rw [← reason_of_insistence insists]
      exact message_failFast_some ..
    · simp [Unresolved.exhausted]
    · intro tried
      simp [exhausts_iff, exhausted, eq_comm]
    · simp [Unresolved.exhausted]

theorem failureReport_of_failed {insistence : Insistence}
    (insists : Unresolved.insistence? resource = some insistence) {failure : FetchError}
    (failed : (Resolve.locate transport resource context history).outcome = .error failure) :
    FailureReport transport resource context history
      (Resolve.locate transport resource context history) insistence
      (Unresolved.failed failure).detail (Unresolved.failed failure).error where
  stopped other := by
    rw [← (locate_labelMajor transport resource context history).failed, failed]
    simp [Unresolved.failed]
  exhausted := by
    rw [exhausts_iff, failed]
    simp [Unresolved.failed]
  known uri := by
    have stopped := ((locate_labelMajor transport resource context history).failed failure).mp failed
    simp only [Unresolved.failed, ne_eq, Option.some.injEq]
    rintro rfl
    exact not_stopsWith_notFound uri stopped
  shown := by
    cases document : failure.documentBody? with
    | some body =>
        refine ⟨.body body, ?_, ?_, ?_, ?_⟩
        · rw [← reason_of_insistence insists, Unresolved.failed, document]
          exact message_failFast_some ..
        · intro other
          simp [Unresolved.failed, ← FetchError.documentBody?_eq_some_iff, document]
        · simp [exhausts_iff, failed]
        · simp [Unresolved.failed, ← FetchError.documentBody?_eq_some_iff, document]
    | none =>
        refine ⟨.nothing, ?_, ?_, ?_, ?_⟩
        · rw [← reason_of_insistence insists, Unresolved.failed, document]
          exact message_failFast_none ..
        · intro body
          simp [Unresolved.failed, ← FetchError.documentBody?_eq_some_iff, document]
        · simp [exhausts_iff, failed]
        · simp [Unresolved.failed, ← FetchError.documentBody?_eq_some_iff, document]

end Search

/-! ### The outcome of a resolution -/

section Outcome

variable {loader : Loader} {resource : ConfigResource} {context : LoadContext}
  {history : List ConfigRequest}

theorem giveUp_eq_none_iff (unresolved : Unresolved) :
    Resolve.conclusion.giveUp resource unresolved = .ok none ↔
      resource.isOptional = true ∧ resource.settings.failFast = false := by
  rw [← insistence?_eq_none_iff]
  unfold Resolve.conclusion.giveUp
  cases Unresolved.insistence? resource <;> simp

theorem giveUp_eq_error_iff (unresolved : Unresolved) (error : ConfigError) :
    Resolve.conclusion.giveUp resource unresolved = .error error ↔
      ∃ insistence, Unresolved.insistence? resource = some insistence ∧
        error = .failFast insistence unresolved.detail unresolved.error := by
  unfold Resolve.conclusion.giveUp
  cases Unresolved.insistence? resource <;> simp [eq_comm]

theorem resolve_withPolicy (failFast isOptional : Bool) :
    (loader.resolve history ⟨resource.withPolicy failFast isOptional, context⟩).requests =
        (loader.resolve history ⟨resource, context⟩).requests ∧
      ∀ data,
        (loader.resolve history ⟨resource.withPolicy failFast isOptional, context⟩).outcome =
            .ok (some data) ↔
          (loader.resolve history ⟨resource, context⟩).outcome = .ok (some data) := by
  have searches : summary (Resolve.locate loader.transport (resource.withPolicy failFast isOptional)
      context history) = summary (Resolve.locate loader.transport resource context history) :=
    summary_locate_withPolicy failFast isOptional
  simp only [summary, Prod.mk.injEq] at searches
  obtain ⟨sameRequests, sameOutcome⟩ := searches
  simp only [loader.resolve_requests, loader.resolve_outcome, sameRequests, sameOutcome,
    Resolve.conclusion_eq_some_iff]
  exact ⟨trivial, fun _ => Iff.rfl⟩

/-- A resolution passes over a search exactly when it located nothing and may do without. -/
theorem resolve_eq_none_iff :
    (loader.resolve history ⟨resource, context⟩).outcome = .ok none ↔
      (¬ ∃ environment, Locates loader.transport history
          (Resolve.locate loader.transport resource context history) environment) ∧
        resource.isOptional = true ∧ resource.settings.failFast = false := by
  rw [loader.resolve_outcome, not_locates_iff]
  simp only
  cases (Resolve.locate loader.transport resource context history).outcome with
  | error failure => simp [Resolve.conclusion, giveUp_eq_none_iff]
  | ok found => cases found <;> simp [Resolve.conclusion, giveUp_eq_none_iff]

/-- The failure of a resolution is the report of its search. -/
theorem failureReport_of_resolve {error : ConfigError}
    (fails : (loader.resolve history ⟨resource, context⟩).outcome = .error error) :
    ∃ insistence detail cause, error = .failFast insistence detail cause ∧
      FailureReport loader.transport resource context history
        (Resolve.locate loader.transport resource context history) insistence detail cause := by
  rw [loader.resolve_outcome] at fails
  simp only at fails
  cases outcome : (Resolve.locate loader.transport resource context history).outcome with
  | error failure =>
      rw [outcome, Resolve.conclusion, giveUp_eq_error_iff] at fails
      obtain ⟨insistence, insists, rfl⟩ := fails
      exact ⟨_, _, _, rfl, failureReport_of_failed insists outcome⟩
  | ok found =>
      cases found with
      | some environment => simp [outcome, Resolve.conclusion] at fails
      | none =>
          rw [outcome, Resolve.conclusion, giveUp_eq_error_iff] at fails
          obtain ⟨insistence, insists, rfl⟩ := fails
          exact ⟨_, _, _, rfl, failureReport_of_exhausted insists outcome⟩

/-- A resolution without data fails exactly when it must not go on. -/
theorem resolve_eq_error_iff :
    (∃ error, (loader.resolve history ⟨resource, context⟩).outcome = .error error) ↔
      (¬ ∃ environment, Locates loader.transport history
          (Resolve.locate loader.transport resource context history) environment) ∧
        ¬ (resource.isOptional = true ∧ resource.settings.failFast = false) := by
  have fails (unresolved : Unresolved) :
      (∃ error, Resolve.conclusion.giveUp resource unresolved = .error error) ↔
        ¬ (resource.isOptional = true ∧ resource.settings.failFast = false) := by
    rw [← insistence?_eq_none_iff, ← ne_eq, Option.ne_none_iff_exists']
    simp only [giveUp_eq_error_iff]
    constructor
    · rintro ⟨_, insistence, insists, _⟩
      exact ⟨insistence, insists⟩
    · rintro ⟨insistence, insists⟩
      exact ⟨_, insistence, insists, rfl⟩
  rw [loader.resolve_outcome, not_locates_iff]
  simp only
  cases (Resolve.locate loader.transport resource context history).outcome with
  | error failure => simpa [Resolve.conclusion] using fails (Unresolved.failed failure)
  | ok found =>
      cases found with
      | none =>
          simpa [Resolve.conclusion] using
            fails (Unresolved.exhausted resource.settings.candidateLabels)
      | some environment => simp [Resolve.conclusion]

end Outcome

/-- The policy of a resource decides only what becomes of a search that located nothing: it is
passed over exactly when the resource may be missing and does not fail fast, and any other is
reported as a failure of one variant. -/
theorem resolution_failurePolicy (loader : Loader) (resource : ConfigResource)
    (context : LoadContext) (history : List ConfigRequest) :
    (∀ failFast isOptional,
      (loader.resolve history ⟨resource.withPolicy failFast isOptional, context⟩).requests =
          (loader.resolve history ⟨resource, context⟩).requests ∧
        ∀ data,
          (loader.resolve history ⟨resource.withPolicy failFast isOptional, context⟩).outcome =
              .ok (some data) ↔
            (loader.resolve history ⟨resource, context⟩).outcome = .ok (some data)) ∧
      ((loader.resolve history ⟨resource, context⟩).outcome = .ok none ↔
        (¬ ∃ environment, Locates loader.transport history
            (Resolve.locate loader.transport resource context history) environment) ∧
          resource.isOptional = true ∧ resource.settings.failFast = false) ∧
      ((∃ error, (loader.resolve history ⟨resource, context⟩).outcome = .error error) ↔
        (¬ ∃ environment, Locates loader.transport history
            (Resolve.locate loader.transport resource context history) environment) ∧
          ¬ (resource.isOptional = true ∧ resource.settings.failFast = false)) ∧
      ∀ error, (loader.resolve history ⟨resource, context⟩).outcome = .error error →
        ∃ insistence detail cause, error = .failFast insistence detail cause ∧
          FailureReport loader.transport resource context history
            (Resolve.locate loader.transport resource context history) insistence detail cause :=
  ⟨resolve_withPolicy, resolve_eq_none_iff, resolve_eq_error_iff,
    fun _ => failureReport_of_resolve⟩

end Walk

end RemoteConfig
