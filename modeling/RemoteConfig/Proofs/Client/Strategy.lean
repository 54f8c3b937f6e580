import RemoteConfig.Proofs.Client.Search

/-!
Contract: the two strategies of a walk over several servers, on the same answers.

Owns:
- a resource under another strategy, which asks for the same at every place;
- the walk of the careful strategy as the beginning of the other one;
- `resolution_strategies`: where the two resolutions agree, and the only way in which they part.

Does not own: which answers let a walk go on.
-/

namespace RemoteConfig

/-- A resource under another strategy. -/
def ConfigResource.withStrategy (resource : ConfigResource) (strategy : UriStrategy) :
    ConfigResource :=
  { resource with settings := { resource.settings with strategy := strategy } }

namespace Walk

/-! ### Two walks over the same places -/

/-- An answer that lets the careful walk go on lets any walk go on. -/
theorem Passes.any {isLast : Bool} {answer : Except TransportFailure HttpReply}
    (passes : Passes .connectionTimeoutOnly isLast answer) (strategy : UriStrategy) :
    Passes strategy isLast answer := by
  cases answer with
  | error failure => exact passes
  | ok reply => exact passes.imp_right fun ⟨_, isAlways, _⟩ => by cases isAlways

/-- Where only the other walk goes on, the careful one ends with the failure of a server. -/
theorem isServerError_of_passes {isLast : Bool} {answer : Except TransportFailure HttpReply}
    {strategy : UriStrategy} (passes : Passes strategy isLast answer)
    (stops : ¬ Passes .connectionTimeoutOnly isLast answer) (uri : String) :
    ∃ error, settled uri answer = .refused error ∧ error.isServerError = true := by
  obtain ⟨error, reads, goesOn⟩ := (passes_iff_interpret strategy isLast uri answer).mp passes
  refine ⟨error, by simp [settled, reads], ?_⟩
  have gives := mt (passes_iff_interpret .connectionTimeoutOnly isLast uri answer).mpr stops
  simp only [reads, Except.error.injEq, exists_eq_left', not_or] at gives
  obtain ⟨notUnknown, notNext⟩ := gives
  obtain ⟨notLast, tries⟩ := goesOn.resolve_left notUnknown
  cases error with
  | transport uri failure => exact absurd ⟨notLast, rfl⟩ notNext
  | _ => simp_all [Fetch.triesNext]

/-- How a walk belongs to one that stops at fewer answers: it makes the first of its requests, and is
the same walk unless the failure of a server ended it. -/
structure IsBeginning (careful eager : List ConfigRequest × Ending) : Prop where
  requests : careful.1 <+: eager.1
  same : (∀ error, careful.2 = .refused error → error.isServerError = false) → eager = careful

theorem IsBeginning.refl (walked : List ConfigRequest × Ending) : IsBeginning walked walked :=
  ⟨List.prefix_rfl, fun _ => rfl⟩

/-- The careful walk is the beginning of every other walk over the same places. -/
theorem along_isBeginning (transport : Transport) (strategy : UriStrategy)
    (history : List ConfigRequest) (places : List Place) :
    IsBeginning (along transport .connectionTimeoutOnly history places)
      (along transport strategy history places) := by
  induction places generalizing history with
  | nil => exact .refl _
  | cons place others inductionHypothesis =>
      cases prepared : place.request with
      | error error =>
          rw [along_cons_error prepared, along_cons_error prepared]
          exact .refl _
      | ok request =>
          by_cases careful : Passes .connectionTimeoutOnly place.isLast
              (transport (history ++ [request]))
          · -- Both go on, and see the same answers from then on.
            obtain ⟨requests, same⟩ := inductionHypothesis (history ++ [request])
            rw [along_cons_pass prepared careful, along_cons_pass prepared (careful.any strategy)]
            refine ⟨List.cons_prefix_cons.mpr ⟨rfl, requests⟩, fun noServerError => ?_⟩
            rw [same noServerError]
          · by_cases eager : Passes strategy place.isLast (transport (history ++ [request]))
            · rw [along_cons_stop prepared careful, along_cons_pass prepared eager]
              refine ⟨List.cons_prefix_cons.mpr ⟨rfl, List.nil_prefix⟩, fun noServerError => ?_⟩
              obtain ⟨error, refused, isServerError⟩ :=
                isServerError_of_passes eager careful request.url.text
              exact absurd (noServerError error refused) (by simp [isServerError])
            · rw [along_cons_stop prepared careful, along_cons_stop prepared eager]
              exact .refl _

/-! ### Two resolutions of a resource -/

section Resolution

variable (resource : ConfigResource) (context : LoadContext)

/-- The strategy is nothing that a place of a resolution shows. -/
theorem places_withStrategy (strategy : UriStrategy) (labels : List String) :
    places (resource.withStrategy strategy) context labels = places resource context labels := by
  unfold places
  congr 1
  funext label
  exact labelPlaces_tuned resource.settings context (labelQuery resource label) context.state
    resource.settings.failFast strategy

theorem summary_locate_withStrategy (transport : Transport) (history : List ConfigRequest)
    (strategy : UriStrategy) :
    summary (Resolve.locate transport (resource.withStrategy strategy) context history) =
      concluded (along transport strategy history
        (places resource context resource.settings.candidateLabels)) := by
  rw [locate_eq_along, places_withStrategy]
  rfl

theorem conclusion_withStrategy (strategy : UriStrategy)
    (outcome : Except FetchError (Option Environment)) :
    Resolve.conclusion (resource.withStrategy strategy) outcome =
      Resolve.conclusion resource outcome :=
  rfl

end Resolution

/-- How the resolutions of one resource under the two strategies belong together. -/
structure StrategiesAgree (loader : Loader) (history : List ConfigRequest)
    (resource : ConfigResource) (context : LoadContext) : Prop where
  /-- The careful resolution makes the first requests of the other one. -/
  inOrder :
    (loader.resolve history
        ⟨resource.withStrategy .connectionTimeoutOnly, context⟩).requests <+:
      (loader.resolve history ⟨resource.withStrategy .always, context⟩).requests
  /-- A careful search that locates an environment or exhausts all labels is the only one. -/
  found : ∀ found,
    (Resolve.locate loader.transport (resource.withStrategy .connectionTimeoutOnly) context
        history).outcome = .ok found →
      (loader.resolve history ⟨resource.withStrategy .always, context⟩).requests =
          (loader.resolve history
            ⟨resource.withStrategy .connectionTimeoutOnly, context⟩).requests ∧
        (loader.resolve history ⟨resource.withStrategy .always, context⟩).outcome =
          (loader.resolve history ⟨resource.withStrategy .connectionTimeoutOnly, context⟩).outcome
  /-- So is one that is stopped by a failure which is not that of a server. -/
  failed : ∀ error,
    (Resolve.locate loader.transport (resource.withStrategy .connectionTimeoutOnly) context
        history).outcome = .error error → error.isServerError = false →
      (loader.resolve history ⟨resource.withStrategy .always, context⟩).requests =
          (loader.resolve history
            ⟨resource.withStrategy .connectionTimeoutOnly, context⟩).requests ∧
        (loader.resolve history ⟨resource.withStrategy .always, context⟩).outcome =
          (loader.resolve history ⟨resource.withStrategy .connectionTimeoutOnly, context⟩).outcome

/-- The resolution under the careful strategy is the beginning of the one that always goes on, and
they are the same unless the failure of a server stopped the careful one. -/
theorem resolution_strategies (loader : Loader) (history : List ConfigRequest)
    (resource : ConfigResource) (context : LoadContext) :
    StrategiesAgree loader history resource context := by
  have careful := summary_locate_withStrategy resource context loader.transport history
    .connectionTimeoutOnly
  have eager := summary_locate_withStrategy resource context loader.transport history .always
  obtain ⟨requests, same⟩ := along_isBeginning loader.transport .always history
    (places resource context resource.settings.candidateLabels)
  simp only [summary, concluded, Prod.mk.injEq] at careful eager
  have agree (noServerError : ∀ error,
      (Resolve.locate loader.transport (resource.withStrategy .connectionTimeoutOnly) context
        history).outcome = .error error → error.isServerError = false) :
      (loader.resolve history ⟨resource.withStrategy .always, context⟩).requests =
          (loader.resolve history
            ⟨resource.withStrategy .connectionTimeoutOnly, context⟩).requests ∧
        (loader.resolve history ⟨resource.withStrategy .always, context⟩).outcome =
          (loader.resolve history
            ⟨resource.withStrategy .connectionTimeoutOnly, context⟩).outcome := by
    have walks := same fun error refused =>
      noServerError error (by rw [careful.2, refused]; rfl)
    simp only [loader.resolve_requests, loader.resolve_outcome, conclusion_withStrategy, careful,
      eager, walks, and_self]
  refine ⟨?_, fun found located => agree ?_, fun error stopped noServerError => agree ?_⟩
  · rw [loader.resolve_requests, loader.resolve_requests, careful.1, eager.1]
    exact requests
  · intro error stopped
    cases located.symm.trans stopped
  · intro other stoppedBy
    cases stopped.symm.trans stoppedBy
    exact noServerError

end Walk

end RemoteConfig
