import RemoteConfig.Proofs.Vault.Mount
import RemoteConfig.Proofs.Vault.Reading

/-!
Contract: the token of a repository of secrets over a run of lookups.

Owns:
- runs of lookups with the token of the repository or with tokens of callers, where the surroundings
  of a login may be others at each lookup;
- what one lookup can do, and what it does to the token that is kept;
- `trace_keepsToken`: at most one acquisition of a run succeeds, its token is the one that the
  repository reads with from there on, and tokens of callers leave it alone.

Does not own: how a token is acquired, and what becomes of the secrets.
-/

namespace RemoteConfig

/-- A lookup with the token of the repository, which a login in the given surroundings may have to
acquire first, or with a token of the caller. -/
inductive VaultLookup where
  | own (context : LoginContext) (query : RepositoryQuery)
  | forwarded (query : RepositoryQuery) (token : String)

def VaultLookup.IsOwn : VaultLookup → Prop
  | own _ _ => True
  | forwarded _ _ => False

/-- The token that a read carries. -/
def VaultCall.readToken? : VaultCall → Option String
  | read _ token => some token
  | login _ _ _ => none
  | fetch _ => none

/-- One lookup of a run: the session before it, and what it found. -/
structure VaultStep where
  lookup : VaultLookup
  before : VaultSession
  found : Lookup VaultSession

namespace VaultStep

/-- The calls that were made for a lookup. -/
def calls (step : VaultStep) : List VaultCall :=
  step.found.memory.calls.drop step.before.calls.length

/-- The tokens of the reads of a lookup, in order. -/
def readTokens (step : VaultStep) : List String :=
  step.calls.filterMap VaultCall.readToken?

/-- Did a lookup set out to acquire a token? An acquisition reports this before anything else. -/
def Attempts (step : VaultStep) : Prop :=
  ∃ line ∈ step.found.logs, line.message = "Acquiring Vault token"

instance (step : VaultStep) : Decidable step.Attempts :=
  inferInstanceAs (Decidable (∃ line ∈ step.found.logs, line.message = "Acquiring Vault token"))

end VaultStep

namespace VaultRepository

/-- The lookup after a session. -/
def answer (repository : VaultRepository) (lookup : VaultLookup) (session : VaultSession) :
    Lookup VaultSession :=
  match lookup with
  | .own context query => { repository with context := context }.find query session
  | .forwarded query token => repository.findForToken query token session

/-- The steps of a run of lookups. -/
def trace (repository : VaultRepository) : VaultSession → List VaultLookup → List VaultStep
  | _, [] => []
  | session, lookup :: others =>
    let found := repository.answer lookup session
    ⟨lookup, session, found⟩ :: trace repository found.memory others

/-- The acquisition that a lookup with the token of the repository makes, if it makes one. -/
def acquisition? (repository : VaultRepository) (step : VaultStep) : Option Acquisition :=
  match step.lookup with
  | .own context _ =>
    some (repository.settings.acquireToken context repository.operations step.before.calls)
  | .forwarded _ _ => none

/-- A lookup attempts an acquisition, and it ends in the given way. -/
def Ends (repository : VaultRepository) (step : VaultStep) (outcome : Except ConfigError String) :
    Prop :=
  step.Attempts ∧ (repository.acquisition? step).map Acquisition.outcome = some outcome

/-- The calls of a step: those of its acquisition, if it attempts one, and reads behind them. -/
def CallsInOrder (repository : VaultRepository) (step : VaultStep) : Prop :=
  step.found.memory.calls = step.before.calls ++ step.calls ∧
    ∃ reads, (∀ call ∈ reads, ∃ path token, call = .read path token) ∧
      (step.Attempts → ∃ acquisition, repository.acquisition? step = some acquisition ∧
        step.calls = acquisition.calls ++ reads) ∧
      (¬ step.Attempts → step.calls = reads)

/-- How the steps of a run treat the token. -/
structure KeepsToken (repository : VaultRepository) (steps : List VaultStep) : Prop where
  /-- An acquisition is attempted exactly by lookups with the token of the repository, as long as
  none has succeeded. -/
  attempts_iff : ∀ (number : Nat) (step : VaultStep), steps[number]? = some step →
    (step.Attempts ↔ step.lookup.IsOwn ∧
      ∀ earlier < number, ∀ other, steps[earlier]? = some other →
        ∀ token, ¬ repository.Ends other (.ok token))
  /-- At most one acquisition succeeds. -/
  once : ∀ (first second : Nat) (one other : VaultStep) (token another : String),
    steps[first]? = some one → steps[second]? = some other →
    repository.Ends one (.ok token) → repository.Ends other (.ok another) → first = second
  /-- Nothing but an acquisition logs in or fetches. -/
  inOrder : ∀ step ∈ steps, repository.CallsInOrder step
  /-- A failed acquisition is the failure of its lookup, which reads nothing and keeps no token. -/
  failed : ∀ step ∈ steps, ∀ error, repository.Ends step (.error error) →
    step.found.outcome = .error error ∧ step.readTokens = [] ∧ step.found.memory.token = none
  /-- Any other lookup with the token of the repository reads, and every read carries the token of
  the acquisition that has succeeded. -/
  reads : ∀ (number : Nat) (step : VaultStep), steps[number]? = some step → step.lookup.IsOwn →
    (∃ error, repository.Ends step (.error error)) ∨
      ∃ earlier ≤ number, ∃ other token, steps[earlier]? = some other ∧
        repository.Ends other (.ok token) ∧
        step.readTokens ≠ [] ∧ ∀ used ∈ step.readTokens, used = token
  /-- A lookup with a token of the caller reads with it, acquires nothing, and leaves the token of
  the repository alone. -/
  forwarded : ∀ step ∈ steps, ∀ query token, step.lookup = .forwarded query token →
    ¬ step.Attempts ∧ step.calls ≠ [] ∧ (∀ call ∈ step.calls, ∃ path, call = .read path token) ∧
      step.found.memory.token = step.before.token

/-! ### Reading -/

/-- A lookup that reads with a token, behind the calls and the reports of an acquisition. -/
structure ReadsWith (token : String) (session : VaultSession) (calls : List VaultCall)
    (logs : List LogLine) (found : Lookup VaultSession) : Prop where
  reads : ∃ reads, found.memory.calls = session.calls ++ (calls ++ reads) ∧ reads ≠ [] ∧
    ∀ call ∈ reads, ∃ path, call = .read path token
  reports : ∃ others, found.logs = logs ++ others ∧
    ∀ line ∈ others, line.message ≠ "Acquiring Vault token"

variable (repository : VaultRepository)

theorem message_of_mem_readKeys_logs (label : Option String) (token : String) (keys : List String)
    (history : List VaultCall) :
    ∀ line ∈ (repository.readKeys label token keys history).logs,
      line.message ≠ "Acquiring Vault token" := by
  induction keys generalizing history with
  | nil => simp [readKeys]
  | cons key rest inductionHypothesis =>
      rw [readKeys]
      dsimp only
      split
      · simp
      · rename_i secret _
        intro line member
        rcases List.mem_append.mp member with own | later
        · unfold VaultSettings.sourceOf at own
          dsimp only at own
          split at own
          · cases own
          · rw [List.mem_singleton.mp own]
            simp [LogLine.debug]
        · exact inductionHypothesis _ line later

theorem readKeys_calls_ne_nil (label : Option String) (token : String) {keys : List String}
    (nonempty : keys ≠ []) (history : List VaultCall) :
    (repository.readKeys label token keys history).calls ≠ [] := by
  cases keys with
  | nil => exact absurd rfl nonempty
  | cons key rest =>
      rw [readKeys]
      dsimp only
      split <;> simp

/-- Every lookup with a token reads with it. -/
theorem findForToken_readsWith (query : RepositoryQuery) (token : String) (session : VaultSession) :
    ReadsWith token session [] [] (repository.findForToken query token session) := by
  have nonempty : (repository.readKeys query.label token (repository.keys query)
      session.calls).calls ≠ [] :=
    readKeys_calls_ne_nil repository query.label token (keys_ne_nil _ _ _) session.calls
  have inOrder := repository.readKeys_calls query.label token (repository.keys query) session.calls
  have messages := message_of_mem_readKeys_logs repository query.label token
    (repository.keys query) session.calls
  unfold findForToken
  -- What is read does not matter from here on.
  generalize repository.readKeys query.label token (repository.keys query) session.calls = read
    at nonempty inOrder messages ⊢
  refine ⟨⟨read.calls, rfl, nonempty, ?_⟩, read.logs, rfl, messages⟩
  intro call member
  obtain ⟨key, _, isRead⟩ := List.mem_map.mp (inOrder.subset member)
  exact ⟨_, isRead.symm⟩

/-! ### One lookup -/

/-- What a step of a run can be: a lookup with a token of the caller; one with the token that is
known already; one that acquires the token and reads with it; or one whose acquisition fails. -/
inductive Conduct (step : VaultStep) : Prop
  | forwarded (query : RepositoryQuery) (token : String)
    (asked : step.lookup = .forwarded query token)
    (reads : ReadsWith token step.before [] [] step.found)
    (keeps : step.found.memory.token = step.before.token)
  | known (token : String) (asked : step.lookup.IsOwn) (known : step.before.token = some token)
    (reads : ReadsWith token step.before [] [] step.found)
    (keeps : step.found.memory.token = some token)
  | acquired (acquisition : Acquisition) (token : String) (asked : step.lookup.IsOwn)
    (unknown : step.before.token = none) (made : repository.acquisition? step = some acquisition)
    (succeeds : acquisition.outcome = .ok token)
    (reads : ReadsWith token step.before acquisition.calls acquisition.logs step.found)
    (keeps : step.found.memory.token = some token)
  | failed (acquisition : Acquisition) (error : ConfigError) (asked : step.lookup.IsOwn)
    (unknown : step.before.token = none) (made : repository.acquisition? step = some acquisition)
    (fails : acquisition.outcome = .error error)
    (found : step.found =
      ⟨.error error, acquisition.logs, step.before.after acquisition.calls⟩)

/-- Every lookup is of one of these kinds. -/
theorem conduct_answer (lookup : VaultLookup) (session : VaultSession) :
    repository.Conduct ⟨lookup, session, repository.answer lookup session⟩ := by
  cases lookup with
  | forwarded query token =>
      exact .forwarded query token rfl (repository.findForToken_readsWith ..) rfl
  | own context query =>
      cases known : session.token with
      | some token =>
          have found : repository.answer (.own context query) session =
              { repository with context := context }.findForToken query token session := by
            simp [answer, find, known]
          rw [found]
          exact .known token trivial known (findForToken_readsWith _ query token session) known
      | none =>
          generalize isMade : repository.settings.acquireToken context repository.operations
            session.calls = acquisition
          cases outcome : acquisition.outcome with
          | error error =>
              refine .failed acquisition error trivial known ?_ outcome ?_
              · simp [acquisition?, isMade]
              · simp [answer, find, known, isMade, outcome]
          | ok token =>
              have found : repository.answer (.own context query) session =
                  let later := { repository with context := context }.findForToken query token
                    { session.after acquisition.calls with token := some token }
                  { later with logs := acquisition.logs ++ later.logs } := by
                simp [answer, find, known, isMade, outcome]
              -- The lookup reads behind the calls of the acquisition, which its session holds.
              have later :=
                findForToken_readsWith { repository with context := context } query token
                  { session.after acquisition.calls with token := some token }
              obtain ⟨reads, grown, nonempty, carry⟩ := later.reads
              obtain ⟨others, reported, silent⟩ := later.reports
              rw [found]
              refine .acquired acquisition token trivial known ?_ outcome
                ⟨⟨reads, ?_, nonempty, carry⟩, others, ?_, silent⟩ rfl
              · simp [acquisition?, isMade]
              · simpa [VaultSession.after] using grown
              · simp [reported]

/-! ### What a lookup does to the token -/

theorem opens_acquireToken (settings : VaultSettings) (context : LoginContext)
    (operations : VaultOperations) (history : List VaultCall) :
    ∃ line ∈ (settings.acquireToken context operations history).logs,
      line.message = "Acquiring Vault token" := by
  refine ⟨.debug "Acquiring Vault token" [("method", settings.effectiveMethod.name)], ?_, rfl⟩
  unfold VaultSettings.acquireToken
  dsimp only
  split <;> exact List.mem_cons_self

theorem readToken?_of_mem_acquireToken (settings : VaultSettings) (context : LoginContext)
    (operations : VaultOperations) (history : List VaultCall) :
    ∀ call ∈ (settings.acquireToken context operations history).calls, call.readToken? = none := by
  have fetches (requests : List ExternalRequest) :
      ∀ call ∈ requests.map VaultCall.fetch, call.readToken? = none := by
    intro call member
    obtain ⟨request, _, rfl⟩ := List.mem_map.mp member
    rfl
  unfold VaultSettings.acquireToken
  dsimp only
  split
  · exact fetches _
  · exact fetches _
  · intro call member
    rcases List.mem_append.mp member with fetched | last
    · exact fetches _ call fetched
    · rw [List.mem_singleton.mp last]
      rfl

section Step

variable {repository} {step : VaultStep}

/-- An acquisition reports itself and reads no secret. -/
theorem facts_of_acquisition {acquisition : Acquisition}
    (made : repository.acquisition? step = some acquisition) :
    (∃ line ∈ acquisition.logs, line.message = "Acquiring Vault token") ∧
      ∀ call ∈ acquisition.calls, call.readToken? = none := by
  unfold acquisition? at made
  split at made
  · cases made
    exact ⟨opens_acquireToken .., readToken?_of_mem_acquireToken _ _ _ _⟩
  · cases made

theorem calls_of_readsWith {token : String} {calls : List VaultCall} {logs : List LogLine}
    (reads : ReadsWith token step.before calls logs step.found) :
    ∃ made, step.found.memory.calls = step.before.calls ++ step.calls ∧
      step.calls = calls ++ made ∧ made ≠ [] ∧ ∀ call ∈ made, ∃ path, call = .read path token := by
  obtain ⟨made, grown, nonempty, carry⟩ := reads.reads
  have isMade : step.calls = calls ++ made := by
    simp [VaultStep.calls, grown]
  exact ⟨made, by rw [grown, isMade], isMade, nonempty, carry⟩

theorem readTokens_of_readsWith {token : String} {calls : List VaultCall} {logs : List LogLine}
    (reads : ReadsWith token step.before calls logs step.found)
    (others : ∀ call ∈ calls, call.readToken? = none) :
    step.readTokens ≠ [] ∧ ∀ used ∈ step.readTokens, used = token := by
  obtain ⟨made, _, isMade, nonempty, carry⟩ := calls_of_readsWith reads
  have isReads : step.readTokens = made.filterMap VaultCall.readToken? := by
    rw [VaultStep.readTokens, isMade, List.filterMap_append, List.filterMap_eq_nil_iff.mpr others,
      List.nil_append]
  rw [isReads]
  constructor
  · cases made with
    | nil => exact absurd rfl nonempty
    | cons first later =>
        obtain ⟨path, rfl⟩ := carry first List.mem_cons_self
        simp [VaultCall.readToken?]
  · intro used member
    obtain ⟨call, isCall, isToken⟩ := List.mem_filterMap.mp member
    obtain ⟨path, rfl⟩ := carry call isCall
    exact (Option.some.inj isToken).symm

theorem not_attempts_of_readsWith {token : String}
    (reads : ReadsWith token step.before [] [] step.found) : ¬ step.Attempts := by
  obtain ⟨others, reported, silent⟩ := reads.reports
  rintro ⟨line, member, opens⟩
  rw [reported, List.nil_append] at member
  exact silent line member opens

variable (conduct : repository.Conduct step)
include conduct

/-- A lookup attempts an acquisition exactly when it needs the token of the repository and there is
none. -/
theorem attempts_iff_of_conduct :
    step.Attempts ↔ step.lookup.IsOwn ∧ step.before.token = none := by
  cases conduct with
  | forwarded query token asked reads keeps =>
      simp [not_attempts_of_readsWith reads, asked, VaultLookup.IsOwn]
  | known token asked known reads keeps => simp [not_attempts_of_readsWith reads, known]
  | acquired acquisition token asked unknown made succeeds reads keeps =>
      obtain ⟨⟨line, member, opens⟩, _⟩ := facts_of_acquisition made
      obtain ⟨others, reported, _⟩ := reads.reports
      have attempts : step.Attempts := ⟨line, by simp [reported, member], opens⟩
      simp [attempts, asked, unknown]
  | failed acquisition error asked unknown made fails found =>
      have attempts : step.Attempts := by
        rw [VaultStep.Attempts, found]
        exact (facts_of_acquisition made).1
      simp [attempts, asked, unknown]

/-- The token after a lookup is the one before it, or the one that the lookup has acquired. -/
theorem token_iff_of_conduct (token : String) :
    step.found.memory.token = some token ↔
      step.before.token = some token ∨ repository.Ends step (.ok token) := by
  unfold Ends
  rw [attempts_iff_of_conduct conduct]
  cases conduct with
  | forwarded query token asked reads keeps => simp [keeps, asked, VaultLookup.IsOwn]
  | known token asked known reads keeps => simp [keeps, known]
  | acquired acquisition token asked unknown made succeeds reads keeps =>
      simp [keeps, unknown, made, succeeds, asked]
  | failed acquisition error asked unknown made fails found =>
      simp [found, VaultSession.after, unknown, made, fails]

theorem callsInOrder_of_conduct : repository.CallsInOrder step := by
  have attempts := attempts_iff_of_conduct conduct
  have areReads {token : String} {made : List VaultCall}
      (carry : ∀ call ∈ made, ∃ path, call = .read path token) :
      ∀ call ∈ made, ∃ path token, call = .read path token := by
    intro call member
    obtain ⟨path, isRead⟩ := carry call member
    exact ⟨path, token, isRead⟩
  have ofReads {token : String} (reads : ReadsWith token step.before [] [] step.found) :
      repository.CallsInOrder step := by
    obtain ⟨made, grown, isMade, _, carry⟩ := calls_of_readsWith reads
    refine ⟨grown, made, areReads carry, fun attempted => ?_, fun _ => isMade⟩
    exact absurd attempted (not_attempts_of_readsWith reads)
  cases conduct with
  | forwarded query token asked reads keeps => exact ofReads reads
  | known token asked known reads keeps => exact ofReads reads
  | acquired acquisition token asked unknown made succeeds reads keeps =>
      obtain ⟨later, grown, isMade, _, carry⟩ := calls_of_readsWith reads
      refine ⟨grown, later, areReads carry, fun _ => ⟨acquisition, made, isMade⟩, fun missed => ?_⟩
      exact absurd (attempts.mpr ⟨asked, unknown⟩) missed
  | failed acquisition error asked unknown made fails found =>
      have isMade : step.calls = acquisition.calls := by
        simp [VaultStep.calls, found, VaultSession.after]
      refine ⟨?_, [], by simp, fun _ => ⟨acquisition, made, by simpa using isMade⟩,
        fun missed => ?_⟩
      · simp [isMade, found, VaultSession.after]
      · exact absurd (attempts.mpr ⟨asked, unknown⟩) missed

theorem failed_of_conduct {error : ConfigError} (ends : repository.Ends step (.error error)) :
    step.found.outcome = .error error ∧ step.readTokens = [] ∧ step.found.memory.token = none := by
  obtain ⟨attempted, isOutcome⟩ := ends
  obtain ⟨_, none⟩ := (attempts_iff_of_conduct conduct).mp attempted
  cases conduct with
  | forwarded query token asked reads keeps =>
      exact absurd attempted (not_attempts_of_readsWith reads)
  | known token asked known reads keeps => exact absurd attempted (not_attempts_of_readsWith reads)
  | acquired acquisition token asked unknown made succeeds reads keeps =>
      simp [made, succeeds] at isOutcome
  | failed acquisition other asked unknown made fails found =>
      have same : other = error := by simpa [made, fails] using isOutcome
      have isMade : step.calls = acquisition.calls := by
        simp [VaultStep.calls, found, VaultSession.after]
      refine ⟨by rw [found, same], ?_, by simp [found, VaultSession.after, unknown]⟩
      rw [VaultStep.readTokens, isMade, List.filterMap_eq_nil_iff]
      exact (facts_of_acquisition made).2

/-- A lookup with the token of the repository fails to acquire it, or reads with the token that is
there afterwards. -/
theorem reads_of_conduct (own : step.lookup.IsOwn) :
    (∃ error, repository.Ends step (.error error)) ∨
      ∃ token, step.found.memory.token = some token ∧
        step.readTokens ≠ [] ∧ ∀ used ∈ step.readTokens, used = token := by
  have attempts := attempts_iff_of_conduct conduct
  cases conduct with
  | forwarded query token asked reads keeps =>
      rw [asked] at own
      exact own.elim
  | known token asked known reads keeps =>
      exact .inr ⟨token, keeps, readTokens_of_readsWith reads (by simp)⟩
  | acquired acquisition token asked unknown made succeeds reads keeps =>
      exact .inr ⟨token, keeps, readTokens_of_readsWith reads (facts_of_acquisition made).2⟩
  | failed acquisition error asked unknown made fails found =>
      exact .inl ⟨error, attempts.mpr ⟨asked, unknown⟩, by simp [made, fails]⟩

theorem forwarded_of_conduct {query : RepositoryQuery} {token : String}
    (asked : step.lookup = .forwarded query token) :
    ¬ step.Attempts ∧ step.calls ≠ [] ∧ (∀ call ∈ step.calls, ∃ path, call = .read path token) ∧
      step.found.memory.token = step.before.token := by
  have notOwn : ¬ step.lookup.IsOwn := by simp [asked, VaultLookup.IsOwn]
  cases conduct with
  | forwarded _ used isAsked reads keeps =>
      cases asked.symm.trans isAsked
      obtain ⟨made, _, isMade, nonempty, carry⟩ := calls_of_readsWith reads
      rw [isMade, List.nil_append]
      exact ⟨not_attempts_of_readsWith reads, nonempty, carry, keeps⟩
  | known _ own _ _ _ => exact absurd own notOwn
  | acquired _ _ own _ _ _ _ _ => exact absurd own notOwn
  | failed _ _ own _ _ _ _ => exact absurd own notOwn

end Step

/-! ### Runs -/

theorem conduct_of_mem_trace {session : VaultSession} {lookups : List VaultLookup}
    {step : VaultStep} (member : step ∈ repository.trace session lookups) :
    repository.Conduct step := by
  induction lookups generalizing session with
  | nil => cases member
  | cons lookup others inductionHypothesis =>
      rcases List.mem_cons.mp member with rfl | later
      · exact repository.conduct_answer lookup session
      · exact inductionHypothesis later

/-- The token before a step is the one at the start of the run, or one that an earlier step has
acquired. -/
theorem token_before_iff {session : VaultSession} {lookups : List VaultLookup} {number : Nat}
    {step : VaultStep} (stands : (repository.trace session lookups)[number]? = some step)
    (token : String) :
    step.before.token = some token ↔ session.token = some token ∨
      ∃ earlier < number, ∃ other, (repository.trace session lookups)[earlier]? = some other ∧
        repository.Ends other (.ok token) := by
  induction lookups generalizing session number with
  | nil => simp [trace] at stands
  | cons lookup others inductionHypothesis =>
      rw [trace] at stands ⊢
      cases number with
      | zero =>
          simp only [List.getElem?_cons_zero, Option.some.injEq] at stands
          subst stands
          simp
      | succ number =>
          have later := inductionHypothesis (by simpa using stands)
          have first := token_iff_of_conduct (repository.conduct_answer lookup session) token
          rw [later, first, or_assoc]
          refine or_congr Iff.rfl ?_
          constructor
          · rintro (acquires | ⟨earlier, below, other, isOther, acquires⟩)
            · exact ⟨0, by omega, _, by simp, acquires⟩
            · exact ⟨earlier + 1, by omega, other, by simpa using isOther, acquires⟩
          · rintro ⟨earlier, below, other, isOther, acquires⟩
            cases earlier with
            | zero =>
                simp only [List.getElem?_cons_zero, Option.some.injEq] at isOther
                subst isOther
                exact .inl acquires
            | succ earlier =>
                exact .inr ⟨earlier, by omega, other, by simpa using isOther, acquires⟩

/-- A repository without a token keeps the first one that it acquires, over every run of lookups. -/
theorem trace_keepsToken (earlier : List VaultCall) (lookups : List VaultLookup) :
    repository.KeepsToken (repository.trace ⟨none, earlier⟩ lookups) := by
  have conducts : ∀ step ∈ repository.trace ⟨none, earlier⟩ lookups, repository.Conduct step :=
    fun step member => conduct_of_mem_trace repository member
  have before {number : Nat} {step : VaultStep}
      (stands : (repository.trace ⟨none, earlier⟩ lookups)[number]? = some step) (token : String) :
      step.before.token = some token ↔ ∃ sooner < number, ∃ other,
        (repository.trace ⟨none, earlier⟩ lookups)[sooner]? = some other ∧
          repository.Ends other (.ok token) := by
    simpa using repository.token_before_iff stands token
  have attempts_iff : ∀ (number : Nat) (step : VaultStep),
      (repository.trace ⟨none, earlier⟩ lookups)[number]? = some step →
      (step.Attempts ↔ step.lookup.IsOwn ∧ ∀ sooner < number, ∀ other,
        (repository.trace ⟨none, earlier⟩ lookups)[sooner]? = some other →
          ∀ token, ¬ repository.Ends other (.ok token)) := by
    intro number step stands
    rw [attempts_iff_of_conduct (conducts step (List.mem_of_getElem? stands)),
      Option.eq_none_iff_forall_ne_some]
    refine and_congr Iff.rfl ?_
    simp only [ne_eq, before stands]
    grind
  refine ⟨attempts_iff, ?_, ?_, ?_, ?_, ?_⟩
  · intro first second one other token another isOne isOther acquires later
    -- Of two successful acquisitions the later one would not have been attempted.
    rcases Nat.lt_trichotomy first second with below | same | above
    · have barred := ((attempts_iff second other isOther).mp later.1).2 first below one isOne token
      exact absurd acquires barred
    · exact same
    · have barred :=
        ((attempts_iff first one isOne).mp acquires.1).2 second above other isOther another
      exact absurd later barred
  · intro step member
    exact callsInOrder_of_conduct (conducts step member)
  · intro step member error ends
    exact failed_of_conduct (conducts step member) ends
  · intro number step stands own
    have conduct := conducts step (List.mem_of_getElem? stands)
    rcases reads_of_conduct conduct own with fails | ⟨token, keeps, nonempty, carry⟩
    · exact .inl fails
    · refine .inr ?_
      rcases (token_iff_of_conduct conduct token).mp keeps with known | acquires
      · obtain ⟨sooner, below, other, isOther, acquires⟩ := (before stands token).mp known
        exact ⟨sooner, by omega, other, token, isOther, acquires, nonempty, carry⟩
      · exact ⟨number, Nat.le_refl number, step, token, stands, acquires, nonempty, carry⟩
  · intro step member query token asked
    exact forwarded_of_conduct (conducts step member) asked

/-- A Vault that refuses the first login and issues a token at every later one. -/
def refusingOnce : VaultRepository where
  settings :=
    { VaultSettings.defaults with
      method := some .appRole
      appRole := ⟨"approle", "", some "role", some "secret"⟩ }
  context := ⟨FileSystem.empty, [], 0, []⟩
  operations :=
    { read _ _ _ := .ok none
      login history _ _ _ := if history.isEmpty then .error (.other "sealed") else .ok "s.issued"
      fetch _ _ := .ok "" }

/-- A lookup with the token of that repository. -/
def ownLookup : VaultLookup :=
  .own refusingOnce.context ⟨"app", "", none⟩

/-- The first lookup fails and reads nothing, one with a token of the caller changes nothing, the
next one acquires a token, and the last one only uses it. -/
theorem keepsToken_refusingOnce :
    ∃ first second third fourth,
      refusingOnce.trace .start
          [ownLookup, .forwarded ⟨"app", "", none⟩ "s.caller", ownLookup, ownLookup] =
        [first, second, third, fourth] ∧
      first.Attempts ∧ first.found.outcome = .error (.other "sealed") ∧ first.readTokens = [] ∧
      second.readTokens = ["s.caller", "s.caller"] ∧
      third.readTokens = ["s.issued", "s.issued"] ∧
      ¬ fourth.Attempts ∧ fourth.readTokens ≠ [] ∧
        ∀ used ∈ fourth.readTokens, used = "s.issued" := by
  have keeps := refusingOnce.trace_keepsToken []
    [ownLookup, .forwarded ⟨"app", "", none⟩ "s.caller", ownLookup, ownLookup]
  refine ⟨_, _, _, _, rfl, ?_⟩
  have refused : refusingOnce.Ends ⟨ownLookup, .start, refusingOnce.answer ownLookup .start⟩
      (.error (.other "sealed")) := ⟨by decide +kernel, rfl⟩
  obtain ⟨outcome, noReads, _⟩ := keeps.failed _ List.mem_cons_self _ refused
  have acquires : ∀ third, (refusingOnce.trace .start
      [ownLookup, .forwarded ⟨"app", "", none⟩ "s.caller", ownLookup, ownLookup])[2]? = some third →
        refusingOnce.Ends third (.ok "s.issued") := by
    rintro third isThird
    cases isThird
    exact ⟨by decide +kernel, by decide +kernel⟩
  have settled := (keeps.attempts_iff 3 _ rfl).not.mpr fun attempts =>
    attempts.2 2 (by decide) _ rfl "s.issued" (acquires _ rfl)
  refine ⟨refused.1, outcome, noReads, by decide +kernel, by decide +kernel, settled, ?_⟩
  rcases keeps.reads 3 _ rfl trivial with
    ⟨error, fails⟩ | ⟨earlier, _, other, token, isOther, ends, reads⟩
  · exact absurd fails.1 settled
  · cases keeps.once earlier 2 other _ token "s.issued" isOther rfl ends (acquires _ rfl)
    have isIssued := (acquires other isOther).2.symm.trans ends.2
    simp only [Option.some.injEq, Except.ok.injEq] at isIssued
    rwa [← isIssued] at reads

end VaultRepository

end RemoteConfig
