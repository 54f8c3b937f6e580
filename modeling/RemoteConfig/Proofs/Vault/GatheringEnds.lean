import RemoteConfig.Vault.Gathering

/-!
Contract: how gatherings end, and which requests their runs make.

Owns:
- conditions on all ends of a gathering, and how they follow from those of its steps;
- gatherings that blame the settings before they fetch anything, if at all;
- runs: a request that fails is the last one, and settings are blamed before any request.

Does not own: what the single methods of a login gather.
-/

namespace RemoteConfig

/-- A failure is none of the settings. -/
def ConfigError.SparesSettings (error : ConfigError) : Prop :=
  ∀ fault, error ≠ .settings fault

namespace Gathering

variable {α β : Type}

/-- Whatever is answered on the way, a gathering ends with a value or a failure of the given kinds. -/
inductive Ends (values : α → Prop) (failures : ConfigError → Prop) : Gathering α → Prop
  | value {value : α} (isOne : values value) : Ends values failures (.done (.ok value))
  | failure {error : ConfigError} (isOne : failures error) :
    Ends values failures (.done (.error error))
  | report {line : LogLine} {next : Gathering α} (ends : Ends values failures next) :
    Ends values failures (.report line next)
  | fetch {request : ExternalRequest} {next : String → Gathering α}
    (ends : ∀ answer, Ends values failures (next answer)) :
    Ends values failures (.fetch request next)

/-- No end of a gathering blames the settings. -/
def SparesSettings (gathering : Gathering α) : Prop :=
  gathering.Ends (fun _ => True) ConfigError.SparesSettings

/-- A gathering blames the settings before it fetches anything, if at all. -/
inductive ChecksFirst : Gathering α → Prop
  | done (outcome : Except ConfigError α) : ChecksFirst (.done outcome)
  | report {line : LogLine} {next : Gathering α} (checks : ChecksFirst next) :
    ChecksFirst (.report line next)
  | fetch {request : ExternalRequest} {next : String → Gathering α}
    (spares : ∀ answer, (next answer).SparesSettings) : ChecksFirst (.fetch request next)

/-! ### Gatherings of several steps -/

section Steps

variable {values : α → Prop} {later : β → Prop} {failures : ConfigError → Prop}
  {gathering : Gathering α} {next : α → Gathering β}

theorem Ends.of_forall (anyValue : ∀ value, values value) (anyFailure : ∀ error, failures error) :
    gathering.Ends values failures := by
  induction gathering with
  | done outcome =>
      cases outcome with
      | error error => exact .failure (anyFailure error)
      | ok value => exact .value (anyValue value)
  | report _ _ inductionHypothesis => exact .report inductionHypothesis
  | fetch _ _ inductionHypothesis => exact .fetch inductionHypothesis

/-- Two steps end with a failure of the first, or as the second does after a value of the first. -/
theorem Ends.bind (first : gathering.Ends values failures)
    (second : ∀ value, values value → (next value).Ends later failures) :
    (gathering >>= next).Ends later failures := by
  induction first with
  | value isOne => exact second _ isOne
  | failure isOne => exact .failure isOne
  | report _ inductionHypothesis => exact .report inductionHypothesis
  | fetch _ inductionHypothesis => exact .fetch inductionHypothesis

/-- The last step decides which values two steps may end with. -/
theorem Ends.of_last (last : ∀ value, (next value).Ends later fun _ => True) :
    (gathering >>= next).Ends later fun _ => True := by
  have first : gathering.Ends (fun _ => True) fun _ => True :=
    .of_forall (fun _ => trivial) fun _ => trivial
  exact first.bind fun value _ => last value

theorem SparesSettings.bind (first : gathering.SparesSettings)
    (second : ∀ value, (next value).SparesSettings) : (gathering >>= next).SparesSettings :=
  Ends.bind first fun value _ => second value

theorem SparesSettings.checksFirst (spares : gathering.SparesSettings) : gathering.ChecksFirst := by
  induction spares with
  | value _ => exact .done _
  | failure _ => exact .done _
  | report _ inductionHypothesis => exact .report inductionHypothesis
  | fetch ends _ => exact .fetch ends

/-- What comes after a step that may have fetched must not blame the settings. -/
theorem ChecksFirst.bind (first : gathering.ChecksFirst)
    (second : ∀ value, (next value).SparesSettings) : (gathering >>= next).ChecksFirst := by
  induction first with
  | done outcome =>
      cases outcome with
      | error _ => exact .done _
      | ok value => exact (second value).checksFirst
  | report _ inductionHypothesis => exact .report inductionHypothesis
  | fetch spares => exact .fetch fun answer => (spares answer).bind second

/-- What comes after a step that fetches nothing may still blame the settings. -/
theorem checksFirst_ofExcept_bind {outcome : Except ConfigError α}
    (second : ∀ value, (next value).ChecksFirst) : (ofExcept outcome >>= next).ChecksFirst := by
  cases outcome with
  | error _ => exact .done _
  | ok value => exact second value

end Steps

theorem sparesSettings_pure (value : α) : (pure value : Gathering α).SparesSettings :=
  .value trivial

theorem sparesSettings_ask (request : ExternalRequest) : (ask request).SparesSettings :=
  .fetch fun _ => .value trivial

theorem sparesSettings_tell (line : LogLine) : (tell line).SparesSettings :=
  .report (.value trivial)

theorem sparesSettings_vault (fault : VaultFault) :
    (done (.error (.vault fault)) : Gathering α).SparesSettings :=
  .failure fun _ => by rintro ⟨⟩

/-- An answer that is no document is a failure of the service. -/
theorem sparesSettings_document (service : IdentityService) (answer : String) :
    (document service answer).SparesSettings := by
  unfold document
  split
  · exact sparesSettings_pure _
  · exact sparesSettings_vault _

theorem sparesSettings_textField (service : IdentityService) (field answer : String) :
    (textField service field answer).SparesSettings := by
  refine (sparesSettings_document service answer).bind fun found => ?_
  split
  · exact sparesSettings_pure _
  · exact sparesSettings_vault _

/-! ### Runs of a gathering -/

section Run

variable {operations : VaultOperations} {gathering : Gathering α} {history : List VaultCall}

/-- A run ends as the gathering may end, or as a fetch fails. -/
theorem Ends.run {values : α → Prop} {failures : ConfigError → Prop}
    (ends : gathering.Ends values failures)
    (fails : ∀ history request error, operations.fetch history request = .error error →
      failures error) :
    (∀ value, (gathering.run operations history).outcome = .ok value → values value) ∧
      ∀ error, (gathering.run operations history).outcome = .error error → failures error := by
  induction ends generalizing history with
  | value isOne =>
      constructor
      · rintro _ ⟨⟩
        exact isOne
      · rintro _ ⟨⟩
  | failure isOne =>
      constructor
      · rintro _ ⟨⟩
      · rintro _ ⟨⟩
        exact isOne
  | report _ inductionHypothesis => exact inductionHypothesis
  | @fetch request next _ inductionHypothesis =>
      rw [Gathering.run]
      cases answered : operations.fetch history request with
      | error error =>
          constructor
          · rintro _ ⟨⟩
          · rintro _ ⟨⟩
            exact fails history request error answered
      | ok answer => exact inductionHypothesis answer

/-- A request of a run that fails is its last one, and the run ends with its failure. -/
theorem run_stops {front behind : List ExternalRequest} {request : ExternalRequest}
    {error : ConfigError}
    (made : (gathering.run operations history).requests = front ++ request :: behind)
    (fails : operations.fetch (history ++ front.map VaultCall.fetch) request = .error error) :
    behind = [] ∧ (gathering.run operations history).outcome = .error error := by
  induction gathering generalizing history front with
  | done _ => simp [run] at made
  | report _ _ inductionHypothesis => exact inductionHypothesis made fails
  | fetch asked next inductionHypothesis =>
      rw [run] at made ⊢
      cases answered : operations.fetch history asked with
      | error failure =>
          simp only [answered] at made ⊢
          obtain ⟨rfl, same⟩ := List.singleton_eq_append_iff.mp made |>.resolve_right (by simp)
          cases same
          refine ⟨rfl, ?_⟩
          rw [List.map_nil, List.append_nil] at fails
          rw [Except.error.inj (answered.symm.trans fails)]
      | ok answer =>
          simp only [answered] at made ⊢
          cases front with
          | nil =>
              obtain ⟨rfl, rfl⟩ := List.cons.inj made
              rw [List.map_nil, List.append_nil, answered] at fails
              cases fails
          | cons first front =>
              obtain ⟨rfl, rest⟩ := List.cons.inj made
              refine inductionHypothesis answer rest ?_
              simpa using fails

/-- A run that blames the settings has fetched nothing, if no fetch blames them. -/
theorem ChecksFirst.run (checks : gathering.ChecksFirst)
    (fails : ∀ history request error, operations.fetch history request = .error error →
      error.SparesSettings) {fault : SettingsFault}
    (blames : (gathering.run operations history).outcome = .error (.settings fault)) :
    (gathering.run operations history).requests = [] := by
  induction checks generalizing history with
  | done _ => rfl
  | report _ inductionHypothesis => exact inductionHypothesis blames
  | @fetch request next spares =>
      rw [Gathering.run] at blames ⊢
      cases answered : operations.fetch history request with
      | error error =>
          simp only [answered, Except.error.injEq] at blames
          exact absurd blames (fails history request error answered fault)
      | ok answer =>
          simp only [answered] at blames
          exact absurd rfl (((spares answer).run fails).2 _ blames fault)

end Run

end Gathering

end RemoteConfig
