import RemoteConfig.Proofs.Client.Reports
import RemoteConfig.Proofs.Client.Secrets

/-!
Contract: what a resolution gives away about the secrets of its settings.

Owns:
- two runs under settings that differ in secrets, as far as they get the same replies;
- the locator that a search cannot read, and the warning of a search without a result;
- `resolution_showsLocatorsOnly`: two such runs are told apart by the written locators that are shown,
  and by nothing else.

Does not own: what is sent to the servers.
-/

namespace RemoteConfig.Walk

/-! ### Two walks -/

/-- The requests of two walks get the same replies, as far as both walks come. -/
def SameReplies (transport other : Transport) (history earlier requests made : List ConfigRequest) :
    Prop :=
  ∀ number, number < requests.length → number < made.length →
    transport (history ++ requests.take (number + 1)) = other (earlier ++ made.take (number + 1))

section Walks

variable {transport other : Transport} {strategy : UriStrategy} {uris others : List String}
  {history earlier requests made : List ConfigRequest} {left right : ConfigRequest}

theorem SameReplies.head
    (replies : SameReplies transport other history earlier (left :: requests) (right :: made)) :
    transport (history ++ [left]) = other (earlier ++ [right]) :=
  replies 0 (by simp) (by simp)

theorem SameReplies.tail
    (replies : SameReplies transport other history earlier (left :: requests) (right :: made)) :
    SameReplies transport other (history ++ [left]) (earlier ++ [right]) requests made := by
  intro number below otherBelow
  have step := replies (number + 1) (by simpa using below) (by simpa using otherBelow)
  simpa [List.append_assoc] using step

/-- The first request of a walk is the one of its first place. -/
theorem exists_along_cons (transport : Transport) (strategy : UriStrategy)
    (history : List ConfigRequest) {place : Place} (prepared : place.request = .ok left)
    (behind : List Place) :
    ∃ later, (along transport strategy history (place :: behind)).1 = left :: later := by
  by_cases passes : Passes strategy place.isLast (transport (history ++ [left]))
  · rw [along_cons_pass prepared passes]
    exact ⟨_, rfl⟩
  · rw [along_cons_stop prepared passes]
    exact ⟨[], rfl⟩

/-- Walks over places that are alike ask in the same order and end alike. -/
theorem along_alike {places behind : List Place}
    (alike : List.Forall₂ (PlaceAlike uris others) places behind)
    (replies : SameReplies transport other history earlier
      (along transport strategy history places).1 (along other strategy earlier behind).1) :
    (along transport strategy history places).1.map ConfigRequest.url =
        (along other strategy earlier behind).1.map ConfigRequest.url ∧
      Alike uris others (· = ·) (along transport strategy history places).2.outcome
        (along other strategy earlier behind).2.outcome := by
  -- The walks stay together: replies are the same as far as both come, so both pass or both stop.
  induction alike generalizing history earlier with
  | nil => exact ⟨rfl, .reached rfl⟩
  | @cons place visited places behind same _ inductionHypothesis =>
      have request := same.request
      generalize here : place.request = asked, there : visited.request = otherAsked at request
      cases request with
      | failed error =>
          rw [along_cons_error here, along_cons_error there]
          exact ⟨rfl, .failed error⟩
      | unreadable stand unread otherUnread =>
          rw [along_cons_error here, along_cons_error there]
          exact ⟨rfl, .unreadable stand unread otherUnread⟩
      | @reached left right sameUrl =>
          have reply : transport (history ++ [left]) = other (earlier ++ [right]) := by
            obtain ⟨_, first⟩ := exists_along_cons transport strategy history here places
            obtain ⟨_, second⟩ := exists_along_cons other strategy earlier there behind
            rw [first, second] at replies
            exact replies.head
          by_cases passes : Passes strategy place.isLast (transport (history ++ [left]))
          · have otherPasses : Passes strategy visited.isLast (other (earlier ++ [right])) := by
              rwa [← same.isLast, ← reply]
            rw [along_cons_pass here passes, along_cons_pass there otherPasses] at replies ⊢
            obtain ⟨urls, outcomes⟩ := inductionHypothesis replies.tail
            exact ⟨by simp [urls, show left.url = right.url from sameUrl], outcomes⟩
          · have otherStops : ¬ Passes strategy visited.isLast (other (earlier ++ [right])) := by
              rwa [← same.isLast, ← reply]
            rw [along_cons_stop here passes, along_cons_stop there otherStops]
            have urls : left.url = right.url := sameUrl
            rw [reply, urls]
            exact ⟨by simp [urls], .refl (fun _ => rfl) _⟩

/-! ### Two lists of reports -/

theorem requestLines_eq_iff (strategy : UriStrategy) (isLast : Bool)
    (written otherWritten uri : String)
    (answer : Except TransportFailure HttpReply) :
    requestLines strategy isLast written uri answer =
        requestLines strategy isLast otherWritten uri answer ↔
      (Passes strategy isLast answer → written = otherWritten) := by
  unfold requestLines
  by_cases passes : Passes strategy isLast answer
  · simp [passes, Fetch.goesOn, LogLine.info]
  · simp [passes]

theorem length_requestLines (strategy : UriStrategy) (isLast : Bool)
    (written otherWritten uri : String)
    (answer : Except TransportFailure HttpReply) :
    (requestLines strategy isLast written uri answer).length =
      (requestLines strategy isLast otherWritten uri answer).length := by
  unfold requestLines
  split <;> rfl

/-- Reports about requests to the same places are the same exactly when the servers that are passed
are written in the same way. -/
theorem lines_eq_iff (strategy : UriStrategy) {marks noted : List Mark}
    (alike : List.Forall₂ (fun mark note => mark.isLast = note.isLast) marks noted)
    (urls : requests.map ConfigRequest.url = made.map ConfigRequest.url)
    (replies : SameReplies transport other history earlier requests made) :
    lines transport strategy history marks requests = lines other strategy earlier noted made ↔
      ∀ (number : Nat) (mark note : Mark), number < requests.length →
        marks[number]? = some mark → noted[number]? = some note →
        Passes strategy mark.isLast (transport (history ++ requests.take (number + 1))) →
        mark.written = note.written := by
  induction alike generalizing history earlier requests made with
  | nil => simp [lines]
  | @cons mark note marks noted isLast _ inductionHypothesis =>
      cases requests with
      | nil =>
          have none : made = [] := by simpa using urls
          subst none
          simp [lines]
      | cons left requests =>
          cases made with
          | nil => simp at urls
          | cons right made =>
              simp only [List.map_cons, List.cons.injEq] at urls
              have rest := inductionHypothesis urls.2 replies.tail
              have first := requestLines_eq_iff strategy mark.isLast mark.written
                note.written left.url.text (transport (history ++ [left]))
              have lengths := length_requestLines strategy mark.isLast mark.written
                note.written left.url.text (transport (history ++ [left]))
              simp only [lines]
              rw [← isLast, ← urls.1, ← replies.head,
                List.append_eq_append_iff_of_size_eq_left lengths,
                first, rest]
              constructor
              · rintro ⟨now, later⟩ (_ | number) visited seen below isVisited isSeen passes
                · cases isVisited
                  cases isSeen
                  exact now (by simpa using passes)
                · exact later number visited seen (by simpa using below) (by simpa using isVisited)
                    (by simpa using isSeen) (by simpa [List.append_assoc] using passes)
              · intro written
                refine ⟨?_, ?_⟩
                · intro passes
                  exact written 0 mark note (by simp) rfl rfl (by simpa using passes)
                · intro number visited seen below isVisited isSeen passes
                  exact written (number + 1) visited seen (by simpa using below)
                    (by simpa using isVisited) (by simpa using isSeen)
                    (by simpa [List.append_assoc] using passes)

end Walks

end RemoteConfig.Walk

/-! ### The ends of two resolutions -/

namespace RemoteConfig.Resolve

/-- The written locator at which a search ends because it cannot be used. -/
def unreadable? : Except FetchError (Option Environment) → Option String
  | .error (.invalidUri written _) => some written
  | _ => none

/-- The warning of a search without a result, after which the client goes on. -/
def warning (resource : ConfigResource) : Except FetchError (Option Environment) → String
  | .error error => text (.failed error)
  | .ok _ => text (.exhausted resource.settings.candidateLabels)
where
  /-- The warning with its detail. -/
  text (unresolved : Unresolved) : String :=
    "Could not locate PropertySource (" ++ resource.describe ++ "): " ++ unresolved.reportedDetail

section Ends

variable {resource : ConfigResource} {uris : List String} {password token : Option String}
  {outcome other : Except FetchError (Option Environment)}

theorem warn_eq_iff (text other : String) :
    LogLine.warn text [] = LogLine.warn other [] ↔ text = other := by
  simp [LogLine.warn]

theorem conclude_alike (unresolved otherUnresolved : Unresolved) :
    (unresolved.conclude resource).2.length =
        (otherUnresolved.conclude (resource.withSecrets uris password token)).2.length ∧
      ((unresolved.conclude resource).2 =
          (otherUnresolved.conclude (resource.withSecrets uris password token)).2 ↔
        (conclusion.giveUp resource unresolved = .ok none →
          warning.text resource unresolved =
            warning.text (resource.withSecrets uris password token) otherUnresolved)) := by
  have policy : Unresolved.insistence? (resource.withSecrets uris password token) =
      Unresolved.insistence? resource := rfl
  unfold Unresolved.conclude conclusion.giveUp
  rw [policy]
  cases Unresolved.insistence? resource with
  | none =>
      refine ⟨rfl, ?_⟩
      simp only [List.cons.injEq, and_true, warn_eq_iff, forall_const]
      rfl
  | some insistence => simp

theorem closing_alike (alike : Walk.Alike resource.settings.uris uris (· = ·) outcome other) :
    (closing resource outcome).length =
        (closing (resource.withSecrets uris password token) other).length ∧
      (closing resource outcome = closing (resource.withSecrets uris password token) other ↔
        (conclusion resource outcome = .ok none →
          warning resource outcome =
            warning (resource.withSecrets uris password token) other)) := by
  cases alike with
  | @reached found _ same =>
      subst same
      cases found with
      | none => exact conclude_alike ..
      | some environment =>
          have equal : closing resource (.ok (some environment)) =
              closing (resource.withSecrets uris password token) (.ok (some environment)) := rfl
          simp [equal, conclusion]
  | failed error => exact conclude_alike ..
  | unreadable _ _ _ => exact conclude_alike ..

/-- Two conclusions are the same exactly when the client goes on, or the searches end at the same
written locator, if at any. -/
theorem conclusion_eq_iff (password token : Option String)
    (alike : Walk.Alike resource.settings.uris uris (· = ·) outcome other) :
    conclusion resource outcome = conclusion (resource.withSecrets uris password token) other ↔
      conclusion resource outcome = .ok none ∨ unreadable? outcome = unreadable? other := by
  have policy : Unresolved.insistence? (resource.withSecrets uris password token) =
      Unresolved.insistence? resource := rfl
  cases alike with
  | @reached found _ same =>
      subst same
      have equal : conclusion resource (.ok found) =
          conclusion (resource.withSecrets uris password token) (.ok found) := by
        cases found <;> rfl
      simp [← equal]
  | failed error =>
      have equal : conclusion resource (.error error) =
          conclusion (resource.withSecrets uris password token) (.error error) := rfl
      simp [← equal]
  | @unreadable first second fault otherFault _ here there =>
      simp only [conclusion, conclusion.giveUp, policy, unreadable?, Option.some.injEq]
      cases Unresolved.insistence? resource with
      | none => simp
      | some insistence =>
          simp only [Except.error.injEq, reduceCtorEq, false_or, ConfigError.failFast.injEq,
            Unresolved.failed, Option.some.injEq, FetchError.invalidUri.injEq, true_and,
            FetchError.documentBody?]
          constructor
          · exact And.left
          · rintro rfl
            cases here.symm.trans there
            exact ⟨rfl, rfl⟩

theorem append_between_inj (before behind first second : String) :
    before ++ first ++ behind = before ++ second ++ behind ↔ first = second := by
  rw [String.append_left_inj, String.append_right_inj]

/-- The description of a resource behind the list of its servers. -/
def describedRest (resource : ConfigResource) : String :=
  "], optional=" ++ ((if resource.isOptional then "true" else "false") ++
    (", profiles=[" ++ (Text.join ", " resource.acceptedProfiles ++ "]\x7d")))

theorem describe_eq (resource : ConfigResource) :
    resource.describe = "ConfigServerResource\x7buris=[" ++ Text.join ", " resource.settings.uris ++
      describedRest resource := by
  unfold ConfigResource.describe describedRest
  rw [String.append_assoc, String.append_assoc, String.append_assoc, String.append_assoc]

theorem warningText_eq_iff (unresolved : Unresolved) :
    warning.text resource unresolved =
        warning.text (resource.withSecrets uris password token) unresolved ↔
      Text.join ", " resource.settings.uris = Text.join ", " uris := by
  have behind : describedRest (resource.withSecrets uris password token) =
      describedRest resource := rfl
  have shown : (resource.withSecrets uris password token).settings.uris = uris := rfl
  unfold warning.text
  rw [describe_eq, describe_eq, behind, shown, String.append_left_inj, append_between_inj,
    append_between_inj]

/-- At the same end, two warnings are the same exactly when the lists of servers read alike. -/
theorem warning_eq_iff (password token : Option String)
    (alike : Walk.Alike resource.settings.uris uris (· = ·) outcome other)
    (same : unreadable? outcome = unreadable? other) :
    warning resource outcome = warning (resource.withSecrets uris password token) other ↔
      Text.join ", " resource.settings.uris = Text.join ", " uris := by
  cases alike with
  | reached equal =>
      subst equal
      exact warningText_eq_iff _
  | failed error => exact warningText_eq_iff _
  | unreadable _ here there =>
      simp only [unreadable?, Option.some.injEq] at same
      subst same
      cases here.symm.trans there
      exact warningText_eq_iff _

end Ends

end RemoteConfig.Resolve

namespace RemoteConfig.Walk

/-! ### Two resolutions -/

section Resolutions

variable {transport other : Transport} {history earlier : List ConfigRequest}
  {resource : ConfigResource} {uris : List String} {password token : Option String}
  {context : LoadContext}

theorem locate_alike (secrets : resource.SecretsAlike uris password token)
    (replies : SameReplies transport other history earlier
      (Resolve.locate transport resource context history).requests
      (Resolve.locate other (resource.withSecrets uris password token) context earlier).requests) :
    (Resolve.locate transport resource context history).requests.map ConfigRequest.url =
        (Resolve.locate other (resource.withSecrets uris password token) context
          earlier).requests.map ConfigRequest.url ∧
      Alike resource.settings.uris uris (· = ·)
        (Resolve.locate transport resource context history).outcome
        (Resolve.locate other (resource.withSecrets uris password token) context earlier).outcome := by
  have search := locate_eq_along transport resource context history
  have otherSearch := locate_eq_along other (resource.withSecrets uris password token) context earlier
  simp only [summary, concluded, Prod.mk.injEq] at search otherSearch
  rw [search.1, otherSearch.1] at replies
  rw [search.1, search.2, otherSearch.1, otherSearch.2]
  exact along_alike (places_alike secrets context _) replies

theorem route_withSecrets (secrets : resource.SecretsAlike uris password token) :
    route (resource.withSecrets uris password token) context = route resource context := by
  unfold route
  rw [length_servers_withSecrets secrets]
  rfl

/-- Two searches under the same replies leave the same reports exactly when the servers that they
pass are written in the same way. -/
theorem logs_locate_eq_iff (secrets : resource.SecretsAlike uris password token)
    (replies : SameReplies transport other history earlier
      (Resolve.locate transport resource context history).requests
      (Resolve.locate other (resource.withSecrets uris password token) context earlier).requests) :
    (Resolve.locate transport resource context history).logs =
        (Resolve.locate other (resource.withSecrets uris password token) context earlier).logs ↔
      ∀ (number : Nat) (position : Nat × Nat),
        number < (Resolve.locate transport resource context history).requests.length →
        (route resource context)[number]? = some position →
        Passes resource.settings.strategy (atLastServer resource context position)
          (answer transport history (Resolve.locate transport resource context history) number) →
        (servers resource context).writtenUri position.2 =
          (servers (resource.withSecrets uris password token) context).writtenUri position.2 := by
  have note : (Resolve.targets (resource.withSecrets uris password token).settings context).2 =
      (Resolve.targets resource.settings context).2 := by
    unfold Resolve.targets ConfigResource.withSecrets
    cases resource.settings.discovery.enabled with
    | false => rfl
    | true => cases context.discovered <;> rfl
  have marks : List.Forall₂ (fun mark note : Mark => mark.isLast = note.isLast)
      ((route resource context).map (markAt resource context))
      ((route resource context).map (markAt (resource.withSecrets uris password token) context)) := by
    rw [List.forall₂_map_left_iff, List.forall₂_map_right_iff, List.forall₂_same]
    intro position _
    simp only [markAt, atLastServer, length_servers_withSecrets secrets]
  have reports := lines_eq_iff resource.settings.strategy marks
    (locate_alike secrets replies).1 replies
  rw [logs_locate, logs_locate, note, route_withSecrets secrets, List.append_cancel_left_eq]
  refine reports.trans ?_
  constructor
  · intro written number position below stands passes
    exact written number (markAt resource context position)
      (markAt (resource.withSecrets uris password token) context position) below (by simp [stands])
      (by simp [stands]) passes
  · intro written number mark noted below isMark isNoted passes
    rw [List.getElem?_map, Option.map_eq_some_iff] at isMark isNoted
    obtain ⟨position, stands, rfl⟩ := isMark
    obtain ⟨_, otherStands, rfl⟩ := isNoted
    cases stands.symm.trans otherStands
    exact written number position below stands passes

/-- Under one list of servers, the same servers are written at all positions. -/
theorem writtenUri_withSecrets (same : resource.settings.uris = uris) (server : Nat) :
    (servers (resource.withSecrets uris password token) context).writtenUri server =
      (servers resource context).writtenUri server := by
  rcases servers_withSecrets resource uris password token context with
    ⟨equal, _⟩ | ⟨there, here⟩ | ⟨there, here⟩
  · rw [equal]
  · rw [here, there, same]
    rfl
  · subst same
    rw [here, there]
    rfl

theorem unreadable?_of_sameUris (same : resource.settings.uris = uris)
    {outcome found : Except FetchError (Option Environment)}
    (alike : Alike resource.settings.uris uris (· = ·) outcome found) :
    Resolve.unreadable? outcome = Resolve.unreadable? found := by
  cases alike with
  | reached equal => rw [equal]
  | failed error => rfl
  | unreadable stand _ _ =>
      obtain ⟨server, here, there⟩ := stand
      rw [same, there] at here
      cases here
      rfl

end Resolutions

/-- What two resolutions under different secrets have in common, and what tells them apart. -/
structure ShowsLocatorsOnly (loader other : Loader) (history earlier : List ConfigRequest)
    (resource second : ConfigResource) (context : LoadContext) : Prop where
  /-- Both ask the same places in the same order. -/
  asked : (loader.resolve history ⟨resource, context⟩).requests.map ConfigRequest.url =
    (other.resolve earlier ⟨second, context⟩).requests.map ConfigRequest.url
  /-- The reports differ in the written locators of servers that are passed, and in the warning. -/
  logs : (loader.resolve history ⟨resource, context⟩).logs =
      (other.resolve earlier ⟨second, context⟩).logs ↔
    (∀ (number : Nat) (position : Nat × Nat),
      number < (loader.resolve history ⟨resource, context⟩).requests.length →
      (route resource context)[number]? = some position →
      Passes resource.settings.strategy (atLastServer resource context position)
        (answer loader.transport history
          (Resolve.locate loader.transport resource context history) number) →
      (servers resource context).writtenUri position.2 =
        (servers second context).writtenUri position.2) ∧
    ((loader.resolve history ⟨resource, context⟩).outcome = .ok none →
      Resolve.warning resource
          (Resolve.locate loader.transport resource context history).outcome =
        Resolve.warning second (Resolve.locate other.transport second context earlier).outcome)
  /-- The warning shows the list of all servers, whenever the searches end alike. -/
  warned : Resolve.unreadable? (Resolve.locate loader.transport resource context history).outcome =
      Resolve.unreadable? (Resolve.locate other.transport second context earlier).outcome →
    (Resolve.warning resource
          (Resolve.locate loader.transport resource context history).outcome =
        Resolve.warning second (Resolve.locate other.transport second context earlier).outcome ↔
      Text.join ", " resource.settings.uris = Text.join ", " second.settings.uris)
  /-- The outcomes differ in the locator that could not be used, when it is the cause of a failure. -/
  outcome : (loader.resolve history ⟨resource, context⟩).outcome =
      (other.resolve earlier ⟨second, context⟩).outcome ↔
    (loader.resolve history ⟨resource, context⟩).outcome = .ok none ∨
    Resolve.unreadable? (Resolve.locate loader.transport resource context history).outcome =
      Resolve.unreadable? (Resolve.locate other.transport second context earlier).outcome
  /-- Password and token are never shown. -/
  configured : resource.settings.uris = second.settings.uris →
    (loader.resolve history ⟨resource, context⟩).logs =
        (other.resolve earlier ⟨second, context⟩).logs ∧
      (loader.resolve history ⟨resource, context⟩).outcome =
        (other.resolve earlier ⟨second, context⟩).outcome

/-- Two resolutions whose settings differ in secrets, and which get the same replies, are told apart
by the written locators that they show, and by nothing else. -/
theorem resolution_showsLocatorsOnly (loader other : Loader) (history earlier : List ConfigRequest)
    {resource : ConfigResource} {uris : List String} {password token : Option String}
    (secrets : resource.SecretsAlike uris password token) (context : LoadContext)
    (replies : SameReplies loader.transport other.transport history earlier
      (loader.resolve history ⟨resource, context⟩).requests
      (other.resolve earlier ⟨resource.withSecrets uris password token, context⟩).requests) :
    ShowsLocatorsOnly loader other history earlier resource
      (resource.withSecrets uris password token) context := by
  rw [loader.resolve_requests, other.resolve_requests] at replies
  obtain ⟨urls, ends⟩ := locate_alike secrets replies
  obtain ⟨lengths, closings⟩ := Resolve.closing_alike ends
  have logs : (loader.resolve history ⟨resource, context⟩).logs =
        (other.resolve earlier ⟨resource.withSecrets uris password token, context⟩).logs ↔
      (Resolve.locate loader.transport resource context history).logs =
          (Resolve.locate other.transport (resource.withSecrets uris password token) context
            earlier).logs ∧
        Resolve.closing resource
            (Resolve.locate loader.transport resource context history).outcome =
          Resolve.closing (resource.withSecrets uris password token)
            (Resolve.locate other.transport (resource.withSecrets uris password token) context
              earlier).outcome := by
    rw [loader.resolve_logs, other.resolve_logs]
    constructor
    · intro equal
      exact List.append_inj' equal lengths
    · rintro ⟨searches, ends⟩
      simp only [searches, ends]
  have outcomes := Resolve.conclusion_eq_iff password token ends
  have warnings := Resolve.warning_eq_iff password token ends
  rw [logs_locate_eq_iff secrets replies, closings] at logs
  refine ⟨?_, ?_, warnings, ?_, ?_⟩
  · rw [loader.resolve_requests, other.resolve_requests]
    exact urls
  · rw [logs, loader.resolve_requests, loader.resolve_outcome]
  · rw [loader.resolve_outcome, other.resolve_outcome]
    exact outcomes
  · intro same
    have equal := unreadable?_of_sameUris same ends
    refine ⟨logs.mpr ⟨?_, ?_⟩, ?_⟩
    · intro _ position _ _ _
      exact (writtenUri_withSecrets same position.2).symm
    · intro _
      exact (warnings equal).mpr (congrArg (Text.join ", ") same)
    · rw [loader.resolve_outcome, other.resolve_outcome]
      exact outcomes.mpr (.inr equal)

/-- Servers that refuse every connection. -/
def refusing : Loader := ⟨fun _ => .error (.other "connection refused"), false, []⟩

/-- Two servers, the first of which is written with user and password. -/
def writtenPassword : ConfigResource :=
  .required { ClientSettings.defaults with
    uris := ["http://u:p@[::1]", "http://[::2]"], password := some "one" } []

/-- Another password in the settings is not shown. -/
theorem showsLocatorsOnly_writtenPassword :
    (refusing.resolve [] ⟨writtenPassword, ⟨none, none⟩⟩).logs =
      (refusing.resolve [] ⟨writtenPassword.withSecrets ["http://u:p@[::1]", "http://[::2]"]
        (some "two") none, ⟨none, none⟩⟩).logs := by
  have secrets : writtenPassword.SecretsAlike ["http://u:p@[::1]", "http://[::2]"] (some "two") none :=
    ⟨.cons rfl (.cons rfl .nil), .inr ⟨"one", "two", rfl, rfl, by decide, by decide⟩, .inl rfl⟩
  have replies : SameReplies refusing.transport refusing.transport [] []
      (refusing.resolve [] ⟨writtenPassword, ⟨none, none⟩⟩).requests
      (refusing.resolve [] ⟨writtenPassword.withSecrets ["http://u:p@[::1]", "http://[::2]"]
        (some "two") none, ⟨none, none⟩⟩).requests := fun _ _ _ => rfl
  exact ((resolution_showsLocatorsOnly refusing refusing [] [] secrets ⟨none, none⟩ replies).configured
    rfl).1

/-- Another password in a written locator is shown once its server is passed. -/
theorem passedLocator_showsPassword :
    writtenPassword.SecretsAlike ["http://u:q@[::1]", "http://[::2]"] (some "one") none ∧
      SameReplies refusing.transport refusing.transport [] []
        (refusing.resolve [] ⟨writtenPassword, ⟨none, none⟩⟩).requests
        (refusing.resolve [] ⟨writtenPassword.withSecrets ["http://u:q@[::1]", "http://[::2]"]
          (some "one") none, ⟨none, none⟩⟩).requests ∧
      (refusing.resolve [] ⟨writtenPassword, ⟨none, none⟩⟩).logs ≠
        (refusing.resolve [] ⟨writtenPassword.withSecrets ["http://u:q@[::1]", "http://[::2]"]
          (some "one") none, ⟨none, none⟩⟩).logs := by
  have alike : Url.AlikeWritten "http://u:p@[::1]" "http://u:q@[::1]" := by decide +kernel
  refine ⟨⟨.cons alike (.cons rfl .nil), .inl rfl, .inl rfl⟩, fun _ _ _ => rfl, ?_⟩
  decide +kernel

end RemoteConfig.Walk
