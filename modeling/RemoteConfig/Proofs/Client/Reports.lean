import RemoteConfig.Proofs.Client.LabelOrder

/-!
Contract: what a resolution reports while it goes on.

Owns:
- the marks of servers, which are what the reports show of them;
- the equality of the reports of a search with those about its requests, one by one;
- the reports at the end of a resolution, by the outcome of its search.

Does not own: what the reports give away.
-/

namespace RemoteConfig.Walk

/-- What is known about a server before it is asked: whether it is the last one, and how it is
written. -/
structure Mark where
  isLast : Bool
  written : String

def serverMark (targets : ServerTargets) (server : Nat) : Mark :=
  ⟨server + 1 == targets.length, targets.writtenUri server⟩

/-- The reports about the requests of a walk over marked places, after a history. -/
def lines (transport : Transport) (strategy : UriStrategy) :
    List ConfigRequest → List Mark → List ConfigRequest → List LogLine
  | history, mark :: marks, request :: requests =>
    requestLines strategy mark.isLast mark.written request.url.text
        (transport (history ++ [request])) ++
      lines transport strategy (history ++ [request]) marks requests
  | _, _, _ => []

section Lines

variable {transport : Transport} {strategy : UriStrategy}

theorem lines_no_requests (history : List ConfigRequest) (marks : List Mark) :
    lines transport strategy history marks [] = [] := by
  cases marks <;> rfl

/-- Behind places that were all asked the next ones are reported, after the requests made so far. -/
theorem lines_append {history first : List ConfigRequest} {marks : List Mark}
    (asked : first.length = marks.length) (others : List Mark) (second : List ConfigRequest) :
    lines transport strategy history (marks ++ others) (first ++ second) =
      lines transport strategy history marks first ++
        lines transport strategy (history ++ first) others second := by
  induction marks generalizing history first with
  | nil =>
      rw [List.length_nil, List.length_eq_zero_iff] at asked
      subst asked
      simp [lines]
  | cons mark marks inductionHypothesis =>
      cases first with
      | nil => simp at asked
      | cons request first =>
          have others := Nat.succ.inj asked
          simp only [List.cons_append, lines, inductionHypothesis others, List.append_assoc,
            List.nil_append]

/-- Places behind the requests leave no report. -/
theorem lines_append_of_le {history requests : List ConfigRequest} {marks : List Mark}
    (atMost : requests.length ≤ marks.length) (others : List Mark) :
    lines transport strategy history (marks ++ others) requests =
      lines transport strategy history marks requests := by
  induction marks generalizing history requests with
  | nil =>
      rw [List.length_nil, Nat.le_zero, List.length_eq_zero_iff] at atMost
      subst atMost
      rw [lines_no_requests, lines_no_requests]
  | cons mark marks inductionHypothesis =>
      cases requests with
      | nil => rfl
      | cons request requests =>
          have others := Nat.le_of_succ_le_succ atMost
          simp only [List.cons_append, lines, inductionHypothesis others]

end Lines

/-! ### The servers of one label -/

section Servers

variable (transport : Transport) (settings : ClientSettings) (targets : ServerTargets)
  (query : EnvironmentQuery)

private theorem fetchWalk_logs (shared : List (String × String)) (history : List ConfigRequest)
    {start length : Nat} (count : start + length = targets.length) :
    (Fetch.walk transport settings targets query shared history (List.range' start length)).logs =
      lines transport settings.strategy history
        ((List.range' start length).map (serverMark targets))
        (Fetch.walk transport settings targets query shared history
          (List.range' start length)).requests := by
  induction length generalizing start history with
  | zero => rfl
  | succ length inductionHypothesis =>
      rw [List.range'_succ, List.map_cons]
      have isLast : (serverMark targets start).isLast =
          (List.range' (start + 1) length).isEmpty := by
        cases length <;> simp [serverMark, ← count, List.range'_succ]
      cases asked : ask settings targets query shared start with
      | error error =>
          unfold ask at asked
          simp only [Fetch.walk, asked]
          rfl
      | ok request =>
          have behind : start + 1 + length = targets.length := by omega
          have rest := inductionHypothesis (history ++ [request]) behind
          by_cases passes : Passes settings.strategy (List.range' (start + 1) length).isEmpty
              (transport (history ++ [request]))
          · rw [fetchWalk_cons_pass asked passes]
            simp only [Fetched.after, lines, isLast, rest]
            rfl
          · rw [fetchWalk_cons_stop asked passes]
            simp only [Fetched.after, Fetched.ended, lines, isLast, lines_no_requests]
            rfl

theorem fetchRun_logs (state : Option String) (history : List ConfigRequest) :
    (Fetch.run transport settings targets query state history).logs =
      lines transport settings.strategy history
        ((List.range targets.length).map (serverMark targets))
        (Fetch.run transport settings targets query state history).requests := by
  unfold Fetch.run
  cases ConfigRequest.sharedHeaders settings state with
  | error error => exact (lines_no_requests ..).symm
  | ok shared =>
      have walked := fetchWalk_logs transport settings targets query shared history
        (Nat.zero_add targets.length)
      rwa [← List.range_eq_range'] at walked

/-- A label makes one request to each server at most, and to all of them when nothing was found. -/
theorem length_fetchRun_requests (state : Option String) (history : List ConfigRequest) :
    (Fetch.run transport settings targets query state history).requests.length ≤ targets.length ∧
      ((Fetch.run transport settings targets query state history).outcome = .ok none →
        (Fetch.run transport settings targets query state history).requests.length =
          targets.length) := by
  have fetched := fetchRun_eq_along transport settings targets query state history
  have report := along_report transport settings.strategy history
    (labelPlaces settings targets query state)
  simp only [summary, concluded, Prod.mk.injEq] at fetched
  rw [fetched.1, fetched.2, Ending.outcome_eq_none_iff]
  have atMost := report.inOrder.length_le
  simp only [List.length_map] at atMost
  cases headers : ConfigRequest.sharedHeaders settings state with
  | error error =>
      have noPlace : labelPlaces settings targets query state = [⟨.error error, true⟩] := by
        simp [labelPlaces, headers]
      simp [noPlace, along]
  | ok shared =>
      have places : (labelPlaces settings targets query state).length = targets.length := by
        simp [labelPlaces, headers]
      rw [← places]
      exact ⟨atMost, report.exhausted⟩

end Servers

/-! ### All labels -/

section Labels

variable (transport : Transport) (resource : ConfigResource) (context : LoadContext)

private theorem walkLabels_logs (history : List ConfigRequest) (labels : List String) :
    (Resolve.walkLabels transport resource.settings (servers resource context) resource.profiles
        context.state history labels).logs =
      lines transport resource.settings.strategy history
        (labels.flatMap fun _ =>
          (List.range (servers resource context).length).map (serverMark (servers resource context)))
        (Resolve.walkLabels transport resource.settings (servers resource context) resource.profiles
          context.state history labels).requests := by
  induction labels generalizing history with
  | nil => rfl
  | cons label others inductionHypothesis =>
      have logs := fetchRun_logs transport resource.settings (servers resource context)
        (labelQuery resource label) context.state history
      have lengths := length_fetchRun_requests transport resource.settings
        (servers resource context) (labelQuery resource label) context.state history
      rw [walkLabels_cons, List.flatMap_cons]
      by_cases exhausted : (Fetch.run transport resource.settings (servers resource context)
          (labelQuery resource label) context.state history).outcome = .ok none
      · have all := lengths.2 exhausted
        rw [followedBy_exhausted exhausted]
        simp only
        rw [lines_append (by simpa using all), ← logs, inductionHypothesis]
      · rw [followedBy_stopped exhausted, lines_append_of_le (by simpa using lengths.1), logs]

/-- The mark of the server at a position. -/
def markAt (position : Nat × Nat) : Mark :=
  ⟨atLastServer resource context position, (servers resource context).writtenUri position.2⟩

theorem flatMap_serverMarks :
    (resource.settings.candidateLabels.flatMap fun _ =>
        (List.range (servers resource context).length).map (serverMark (servers resource context))) =
      (route resource context).map (markAt resource context) := by
  conv => lhs; rw [← range_map_getD resource.settings.candidateLabels]
  rw [route, positions, List.flatMap_map, List.map_flatMap]
  congr 1
  funext label
  rw [List.map_map]
  rfl

/-- A search reports about its requests, one by one, behind the note that nothing was discovered. -/
theorem logs_locate (history : List ConfigRequest) :
    (Resolve.locate transport resource context history).logs =
      (Resolve.targets resource.settings context).2 ++
        lines transport resource.settings.strategy history
          ((route resource context).map (markAt resource context))
          (Resolve.locate transport resource context history).requests := by
  rw [← flatMap_serverMarks]
  exact congrArg _ (walkLabels_logs transport resource context history
    resource.settings.candidateLabels)

end Labels

end RemoteConfig.Walk

/-! ### The end of a resolution -/

namespace RemoteConfig.Resolve

/-- The reports behind a search. -/
def closing (resource : ConfigResource) :
    Except FetchError (Option Environment) → List LogLine
  | .ok (some environment) => locatedLogs environment ++ Profile.reports resource.acceptedProfiles
  | .ok none => ((Unresolved.exhausted resource.settings.candidateLabels).conclude resource).2
  | .error error => ((Unresolved.failed error).conclude resource).2

theorem run_logs (transport : Transport) (history : List ConfigRequest) (request : LoadRequest) :
    (run transport history request).logs =
      (locate transport request.resource request.context history).logs ++
        closing request.resource
          (locate transport request.resource request.context history).outcome := by
  unfold run
  simp only
  split
  · rename_i found
    rw [found]
    exact List.append_assoc ..
  · rename_i exhausted
    rw [exhausted]
    rfl
  · rename_i failed
    rw [failed]
    rfl

end RemoteConfig.Resolve

/-- The reports of a loader are those of the search and of its end. -/
theorem RemoteConfig.Loader.resolve_logs (loader : Loader) (history : List ConfigRequest)
    (request : LoadRequest) :
    (loader.resolve history request).logs =
      (Resolve.locate loader.transport request.resource request.context history).logs ++
        Resolve.closing request.resource
          (Resolve.locate loader.transport request.resource request.context history).outcome := by
  rw [← Resolve.run_logs]
  unfold resolve
  split <;> rfl
