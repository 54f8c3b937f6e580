import RemoteConfig.Client.Fetch
import RemoteConfig.Proofs.Outcome

/-!
Contract: failures before a request is made.

Owns:
- the kind of these failures, apart from the failures of an answer;
- every failure of headers, credentials and locators is of this kind, and no answer is.

Does not own: where a walk stops.
-/

namespace RemoteConfig

/-- A failure of settings or of a configured locator, for which no server was asked. -/
def FetchError.IsPreparation : FetchError → Prop
  | .invalidUri _ _ => True
  | .configuration _ => True
  | _ => False

namespace ConfigRequest

/-- Headers that are refused are a fault of the settings. -/
theorem exists_fault_of_forM {headers : List (String × String)} {error : FetchError}
    (fails : headers.forM checkHeader = .error error) : ∃ fault, error = .configuration fault := by
  induction headers with
  | nil => cases fails
  | cons header others inductionHypothesis =>
      rcases bind_eq_error fails with here | ⟨_, _, later⟩
      · unfold checkHeader at here
        split at here
        · exact ⟨_, (Except.error.inj here).symm⟩
        · split at here
          · exact ⟨_, (Except.error.inj here).symm⟩
          · cases here
      · exact inductionHypothesis later

theorem exists_fault_of_sharedHeaders {settings : ClientSettings} {state : Option String}
    {error : FetchError} (fails : sharedHeaders settings state = .error error) :
    ∃ fault, error = .configuration fault := by
  rcases bind_eq_error fails with checks | ⟨_, _, impossible⟩
  · exact exists_fault_of_forM checks
  · cases impossible

theorem isPreparation_of_sharedHeaders {settings : ClientSettings} {state : Option String}
    {error : FetchError} (fails : sharedHeaders settings state = .error error) :
    error.IsPreparation := by
  obtain ⟨fault, isFault⟩ := exists_fault_of_sharedHeaders fails
  rw [isFault]
  trivial

theorem isPreparation_of_environmentUrl {base : Url} {query : EnvironmentQuery}
    {error : FetchError} (fails : environmentUrl base query = .error error) :
    error.IsPreparation := by
  unfold environmentUrl at fails
  simp only at fails
  generalize base.extend? _ = extended at fails
  cases extended with
  | some url => cases fails
  | none =>
      cases fails
      trivial

theorem isPreparation_of_authorization {settings : ClientSettings} {credentials : Credentials}
    {error : FetchError} (fails : authorization settings credentials = .error error) :
    error.IsPreparation := by
  unfold authorization at fails
  split at fails
  · cases fails
    trivial
  · cases fails
  · cases fails

theorem isPreparation_of_build {settings : ClientSettings} {shared : List (String × String)}
    {credentials : Credentials} {query : EnvironmentQuery} {error : FetchError}
    (fails : build settings shared credentials query = .error error) : error.IsPreparation := by
  rcases bind_eq_error fails with locator | ⟨_, _, later⟩
  · exact isPreparation_of_environmentUrl locator
  · rcases bind_eq_error later with secret | ⟨_, _, impossible⟩
    · exact isPreparation_of_authorization secret
    · cases impossible

end ConfigRequest

theorem Credentials.isPreparation_of_ofUri {written : String} {username password : Option String}
    {error : FetchError} (fails : ofUri written username password = .error error) :
    error.IsPreparation := by
  unfold ofUri at fails
  split at fails
  · cases fails
    trivial
  · simp only at fails
    split at fails
    · cases fails
    · split at fails <;> cases fails

theorem ServerTargets.isPreparation_of_credentials {targets : ServerTargets} {index : Nat}
    {error : FetchError} (fails : targets.credentials index = .error error) :
    error.IsPreparation := by
  cases targets with
  | configured settings =>
      simp only [ServerTargets.credentials, ClientSettings.credentials] at fails
      split at fails
      · cases fails
        trivial
      · exact Credentials.isPreparation_of_ofUri fails
  | discovered instances =>
      simp only [ServerTargets.credentials] at fails
      split at fails
      · cases fails
        trivial
      · rename_i written _
        cases found : Credentials.ofUri written none none with
        | error _ =>
            simp only [found, Except.map] at fails
            cases fails
            exact Credentials.isPreparation_of_ofUri found
        | ok _ => simp [found, Except.map] at fails

/-- The failures of answers are of another kind. -/
theorem Fetch.not_isPreparation_of_interpret {uri : String}
    {answer : Except TransportFailure HttpReply} {error : FetchError}
    (fails : interpret uri answer = .error error) : ¬ error.IsPreparation := by
  unfold interpret at fails
  split at fails
  · cases fails
    exact id
  · split at fails
    · split at fails
      · cases fails
      · cases fails
        exact id
    · split at fails
      · cases fails
        exact id
      · cases fails
        exact id

end RemoteConfig
