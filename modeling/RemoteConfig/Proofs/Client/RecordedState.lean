import RemoteConfig.Proofs.Client.FirstRequest
import RemoteConfig.Proofs.Client.StateToken

/-!
Contract: recorded states that keep a client from its servers.

Owns:
- the headers for the state, and the failure of one that may not be sent;
- states that a client may send;
- `recorded_contacts`: a resolution that makes a request without a state makes one with a recorded
  state exactly when that state may be sent, and is a fault of the settings otherwise.

Does not own: how the token travels.
-/

namespace RemoteConfig

namespace ConfigRequest

theorem mem_stateHeaders_iff {settings : ClientSettings} {state : Option String}
    {header : String × String} :
    header ∈ stateHeaders settings state ↔
      settings.sendState = true ∧ ∃ token, state = some token ∧ Text.hasText token = true ∧
        header = (stateHeader, token) := by
  unfold stateHeaders
  cases settings.sendState with
  | false => simp
  | true =>
      simp only [↓reduceIte, List.mem_map, Option.mem_toList, Text.nonBlank,
        Option.filter_eq_some_iff, true_and, and_assoc, eq_comm (a := header)]

theorem checkHeader_stateHeader (token : String) :
    checkHeader (stateHeader, token) =
      if Header.isValidValue token then .ok ()
      else .error (.configuration (.invalidHeaderValue stateHeader)) := by
  have name : Header.isValidName stateHeader = true := by decide
  cases valid : Header.isValidValue token <;> simp [checkHeader, name, valid]

/-- Headers that may be sent leave the check to those behind them. -/
theorem forM_checkHeader_append {before : List (String × String)}
    (valid : ∀ header ∈ before, checkHeader header = .ok ()) (rest : List (String × String)) :
    (before ++ rest).forM checkHeader = rest.forM checkHeader := by
  induction before with
  | nil => rfl
  | cons header others inductionHypothesis =>
      rw [List.forall_mem_cons] at valid
      show (checkHeader header).bind (fun _ => (others ++ rest).forM checkHeader) = _
      rw [valid.1]
      exact inductionHypothesis valid.2

end ConfigRequest

namespace ClientState

/-- The state may be sent: it is not sent at all, or its token, when it has text, has no characters
that no value of a header may have. -/
def MaySend (state : ClientState) (settings : ClientSettings) : Prop :=
  settings.sendState = true → ∀ token, state.current = some token → Text.hasText token = true →
    Header.isValidValue token = true

/-- A state may be sent exactly when its headers may. -/
theorem maySend_iff (state : ClientState) (settings : ClientSettings) :
    state.MaySend settings ↔ ∀ header ∈ ConfigRequest.stateHeaders settings state.current,
      ConfigRequest.checkHeader header = .ok () := by
  constructor
  · intro maySend header member
    obtain ⟨sends, token, current, text, rfl⟩ := ConfigRequest.mem_stateHeaders_iff.mp member
    rw [ConfigRequest.checkHeader_stateHeader, maySend sends token current text]
    rfl
  · intro valid sends token current text
    have isHeader := ConfigRequest.mem_stateHeaders_iff.mpr ⟨sends, token, current, text, rfl⟩
    have checked := valid _ isHeader
    rw [ConfigRequest.checkHeader_stateHeader] at checked
    by_contra invalid
    simp [invalid] at checked

end ClientState

namespace ConfigRequest

/-- Where the headers may be sent without a state, they may be sent with one that may be sent. -/
theorem exists_sharedHeaders_state_iff {settings : ClientSettings}
    (valid : ∃ shared, sharedHeaders settings none = .ok shared) (state : ClientState) :
    (∃ shared, sharedHeaders settings state.current = .ok shared) ↔ state.MaySend settings := by
  rw [exists_sharedHeaders_iff] at valid
  rw [exists_sharedHeaders_iff, state.maySend_iff, builtInHeaders_eq_append]
  constructor
  · intro all header member
    exact all header (by simp [member])
  · intro stateValid header member
    simp only [List.mem_append] at member valid
    rcases member with (isBuiltIn | isState) | isCustom
    · exact valid header (.inl isBuiltIn)
    · exact stateValid header isState
    · exact valid header (.inr isCustom)

/-- A state that may not be sent is the first header that may not. -/
theorem sharedHeaders_of_not_maySend {settings : ClientSettings}
    (valid : ∃ shared, sharedHeaders settings none = .ok shared) {state : ClientState}
    (mayNot : ¬ state.MaySend settings) :
    sharedHeaders settings state.current =
      .error (.configuration (.invalidHeaderValue stateHeader)) := by
  rw [exists_sharedHeaders_iff] at valid
  unfold ClientState.MaySend at mayNot
  push Not at mayNot
  obtain ⟨sends, token, current, text, invalid⟩ := mayNot
  have before : ∀ header ∈ builtInHeaders settings none, checkHeader header = .ok () := by
    intro header member
    exact valid header (List.mem_append_left _ member)
  have headers : stateHeaders settings state.current = [(stateHeader, token)] := by
    simp [stateHeaders, sends, current, Text.nonBlank, text]
  have fails : checkHeader (stateHeader, token) =
      .error (.configuration (.invalidHeaderValue stateHeader)) := by
    rw [checkHeader_stateHeader, if_neg (by simpa using invalid)]
  unfold sharedHeaders
  dsimp only
  rw [builtInHeaders_eq_append, headers, List.append_assoc, forM_checkHeader_append before]
  show ((checkHeader (stateHeader, token)).bind _).bind _ = _
  rw [fails]
  rfl

end ConfigRequest

namespace ClientState

/-- What a resolution with a state becomes that makes a request without one. -/
structure Contacts (state : ClientState) (loader : Loader) (history : List ConfigRequest)
    (discovered : Option DiscoveredInstances) (resource : ConfigResource) : Prop where
  /-- It makes a request exactly when the state may be sent. -/
  contacts_iff : (loader.resolve history ⟨resource, state.contextWith discovered⟩).requests ≠ [] ↔
    state.MaySend resource.settings
  /-- Without a request it ends with the fault of the header for the state. -/
  faulty : ¬ state.MaySend resource.settings →
    (loader.resolve history ⟨resource, state.contextWith discovered⟩).outcome =
      Resolve.conclusion resource
        (.error (.configuration (.invalidHeaderValue ConfigRequest.stateHeader)))

theorem contacts_of_contacts {loader : Loader} {history : List ConfigRequest}
    {discovered : Option DiscoveredInstances} {resource : ConfigResource}
    (withoutState : (loader.resolve history ⟨resource, ⟨none, discovered⟩⟩).requests ≠ [])
    (state : ClientState) (later : Loader) (earlier : List ConfigRequest) :
    state.Contacts later earlier discovered resource := by
  rw [Walk.requests_ne_nil_iff, Walk.exists_planned_iff] at withoutState
  obtain ⟨valid, rest⟩ := withoutState
  constructor
  · rw [Walk.requests_ne_nil_iff, Walk.exists_planned_iff,
      ← ConfigRequest.exists_sharedHeaders_state_iff valid state]
    -- What a request takes besides its headers is the same with and without a state.
    exact and_iff_left rest
  · intro mayNot
    rw [later.resolve_outcome]
    have headers : ConfigRequest.sharedHeaders resource.settings
        (state.contextWith discovered).state = _ :=
      ConfigRequest.sharedHeaders_of_not_maySend valid mayNot
    rw [(Walk.locate_of_headers_error later.transport earlier headers).2]

/-- After any successful resolution: a later one that makes a request without a state makes one with
the recorded state exactly when that state may be sent, and ends with the fault of its header
otherwise; and the state is the one that the server has answered with, or the one before when that
has no text. -/
theorem recorded_contacts {recorder : Loader} {recorded : List ConfigRequest}
    {request : LoadRequest} {data : ConfigData}
    (succeeds : (recorder.resolve recorded request).outcome = .ok (some data))
    {loader : Loader} {history : List ConfigRequest} {discovered : Option DiscoveredInstances}
    {resource : ConfigResource}
    (withoutState : (loader.resolve history ⟨resource, ⟨none, discovered⟩⟩).requests ≠ [])
    (holder : ClientState) (later : Loader) (earlier : List ConfigRequest) :
    (holder.record data).Contacts later earlier discovered resource ∧
      ∃ environment, Walk.Locates recorder.transport recorded
          (Resolve.locate recorder.transport request.resource request.context recorded)
          environment ∧
        (holder.record data).current = (Text.nonBlank environment.state).or holder.current := by
  refine ⟨contacts_of_contacts withoutState (holder.record data) later earlier, ?_⟩
  obtain ⟨environment, located, rfl⟩ := Walk.resolve_eq_some_iff.mp succeeds
  exact ⟨environment, located, holder.current_record environment request.resource.acceptedProfiles⟩

/-- A server whose environments have the given state, as it is spelled in their text. -/
def stating (spelled : String) : Loader :=
  ⟨fun _ => .ok ⟨200, none, "\x7b\"name\":\"application\",\"profiles\":[],\"state\":\"" ++ spelled
    ++ "\",\"propertySources\":[]\x7d"⟩, false, []⟩

/-- A resolution with a state has recorded it. -/
theorem exists_recorded {loader : Loader} {token : String}
    (states : (loader.resolve [] ⟨plain, ⟨none, none⟩⟩).outcome.toOption.join.bind
      ConfigData.state? = some token) :
    ∃ data, (loader.resolve [] ⟨plain, ⟨none, none⟩⟩).outcome = .ok (some data) ∧
      empty.record data = ⟨some token⟩ := by
  obtain ⟨data, found, isState⟩ := Option.bind_eq_some_iff.mp states
  refine ⟨data, eq_ok_of_toOption (Option.join_eq_some_iff.mp found), ?_⟩
  rw [record, isState]
  rfl

theorem exists_recorded_lineFeed :
    ∃ data, ((stating "a\\nb").resolve [] ⟨plain, ⟨none, none⟩⟩).outcome = .ok (some data) ∧
      empty.record data = ⟨some "a\nb"⟩ :=
  exists_recorded (by decide +kernel)

/-- A printable state goes to the servers, and one with a line feed keeps the client from them. -/
theorem recorded_contacts_stating :
    (∃ data, ((stating "s1").resolve [] ⟨plain, ⟨none, none⟩⟩).outcome = .ok (some data) ∧
      (Walk.unknowing.resolve [] ⟨plain, ⟨none, none⟩⟩).requests ≠ [] ∧
      (Walk.unknowing.resolve [] ⟨plain, (empty.record data).contextWith none⟩).requests ≠ []) ∧
    ∃ data, ((stating "a\\nb").resolve [] ⟨plain, ⟨none, none⟩⟩).outcome = .ok (some data) ∧
      (Walk.unknowing.resolve [] ⟨plain, (empty.record data).contextWith none⟩).outcome =
        .error (.failFast .required none
          (some (.configuration (.invalidHeaderValue "X-Config-State")))) := by
  have made : (Walk.unknowing.resolve [] ⟨plain, ⟨none, none⟩⟩).requests ≠ [] := by
    decide +kernel
  constructor
  · obtain ⟨data, succeeds, recorded⟩ :
        ∃ data, ((stating "s1").resolve [] ⟨plain, ⟨none, none⟩⟩).outcome = .ok (some data) ∧
          empty.record data = ⟨some "s1"⟩ := exists_recorded (by decide +kernel)
    have contacts := (recorded_contacts succeeds made empty Walk.unknowing []).1
    refine ⟨data, succeeds, made, contacts.contacts_iff.mpr ?_⟩
    intro _ token current _
    rw [recorded] at current
    cases current
    decide
  · obtain ⟨data, succeeds, recorded⟩ := exists_recorded_lineFeed
    have contacts := (recorded_contacts succeeds made empty Walk.unknowing []).1
    refine ⟨data, succeeds, contacts.faulty ?_⟩
    intro maySend
    have valid := maySend rfl "a\nb" (by rw [recorded]) (by decide)
    exact absurd valid (by decide)

/-- A server that answers with a line feed in its state keeps the client from all servers: what was
resolved without a state is not even asked for once the state is recorded. -/
theorem recorded_keepsFromServers :
    ∃ data, ((stating "a\\nb").resolve [] ⟨plain, ⟨none, none⟩⟩).outcome = .ok (some data) ∧
      ((stating "a\\nb").resolve [] ⟨plain, ⟨none, none⟩⟩).requests.length = 1 ∧
      ((stating "a\\nb").resolve []
        ⟨plain, (empty.record data).contextWith none⟩).requests = [] := by
  obtain ⟨data, succeeds, recorded⟩ := exists_recorded_lineFeed
  refine ⟨data, succeeds, by decide +kernel, ?_⟩
  rw [recorded]
  decide +kernel

end ClientState

end RemoteConfig
