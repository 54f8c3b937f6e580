import RemoteConfig.Client.Loader

/-!
Contract: a walk over a flat list of places, each with one request.

Owns:
- places, the answers that let a walk go past one, and the ways in which a walk ends;
- the walk over a flat list of places, and what its requests and its ending say about the answers.

Does not own: which places a resolution walks over.
-/

namespace RemoteConfig.Walk

/-- A place of a walk: the request that belongs there, or the reason why there is none, and whether
no server of the same label follows. -/
structure Place where
  request : Except FetchError ConfigRequest
  isLast : Bool

/-- How a walk ends: behind its last place, at a place without a request, or with the meaning of an
answer. -/
inductive Ending where
  | exhausted
  | unprepared (error : FetchError)
  | located (environment : Environment)
  | refused (error : FetchError)

/-- The outcome of a search that ends in the given way. -/
def Ending.outcome : Ending → Except FetchError (Option Environment)
  | exhausted => .ok none
  | unprepared error => .error error
  | located environment => .ok (some environment)
  | refused error => .error error

theorem Ending.outcome_eq_none_iff (ending : Ending) :
    ending.outcome = .ok none ↔ ending = .exhausted := by
  cases ending <;> simp [Ending.outcome]

/-- The walk went past every place for which it made a request. -/
def Ending.IsBeyond : Ending → Prop
  | exhausted => True
  | unprepared _ => True
  | located _ => False
  | refused _ => False

/-- Does an answer let the walk go past its place? An unknown environment always does; any other
failure needs a further server, and one that a server answered needs the strategy for it. -/
def Passes (strategy : UriStrategy) (isLast : Bool) : Except TransportFailure HttpReply → Prop
  | .error _ => isLast = false
  | .ok reply =>
    reply.status = 404 ∨
      (isLast = false ∧ strategy = .always ∧
        (reply.status ≠ 200 ∨ Environment.parse? reply.body = none))

instance (strategy : UriStrategy) (isLast : Bool) (answer : Except TransportFailure HttpReply) :
    Decidable (Passes strategy isLast answer) := by
  unfold Passes
  cases answer <;> infer_instance

/-- The ending at an answer that does not let the walk go on. -/
def settled (uri : String) (answer : Except TransportFailure HttpReply) : Ending :=
  match Fetch.interpret uri answer with
  | .ok environment => .located environment
  | .error error => .refused error

/-- The requests of a walk over some places after a history, and its ending. -/
def along (transport : Transport) (strategy : UriStrategy) :
    List ConfigRequest → List Place → List ConfigRequest × Ending
  | _, [] => ([], .exhausted)
  | history, place :: others =>
    match place.request with
    | .error error => ([], .unprepared error)
    | .ok request =>
      let answer := transport (history ++ [request])
      if Passes strategy place.isLast answer then
        let rest := along transport strategy (history ++ [request]) others
        (request :: rest.1, rest.2)
      else ([request], settled request.url.text answer)

/-! ### Answers -/

/-- The reading of an answer passes exactly when it is a failure after which the walk goes on. -/
theorem passes_iff_interpret (strategy : UriStrategy) (isLast : Bool) (uri : String)
    (answer : Except TransportFailure HttpReply) :
    Passes strategy isLast answer ↔
      ∃ error, Fetch.interpret uri answer = .error error ∧
        ((∃ unknown, error = .notFound unknown) ∨
          (isLast = false ∧ Fetch.triesNext error strategy = true)) := by
  cases answer with
  | error failure => simp [Passes, Fetch.interpret, Fetch.triesNext]
  | ok reply =>
      simp only [Passes, Fetch.interpret]
      by_cases found : reply.status = 200
      · cases parsed : Environment.parse? reply.body with
        | some environment => simp [found]
        | none => simp [found, Fetch.triesNext, FetchError.isServerError]
      · by_cases unknown : reply.status = 404
        · simp [unknown]
        · simp [found, unknown, Fetch.triesNext, FetchError.isServerError]

theorem not_isBeyond_settled (uri : String) (answer : Except TransportFailure HttpReply) :
    ¬ (settled uri answer).IsBeyond := by
  unfold settled
  split <;> simp [Ending.IsBeyond]

/-! ### The walk over a flat list of places -/

section Along

variable {transport : Transport} {strategy : UriStrategy}

theorem along_cons_error {history : List ConfigRequest} {place : Place} {others : List Place}
    {error : FetchError} (unprepared : place.request = .error error) :
    along transport strategy history (place :: others) = ([], .unprepared error) := by
  simp [along, unprepared]

theorem along_cons_pass {history : List ConfigRequest} {place : Place} {others : List Place}
    {request : ConfigRequest} (prepared : place.request = .ok request)
    (passes : Passes strategy place.isLast (transport (history ++ [request]))) :
    along transport strategy history (place :: others) =
      (request :: (along transport strategy (history ++ [request]) others).1,
        (along transport strategy (history ++ [request]) others).2) := by
  simp [along, prepared, passes]

theorem along_cons_stop {history : List ConfigRequest} {place : Place} {others : List Place}
    {request : ConfigRequest} (prepared : place.request = .ok request)
    (stops : ¬ Passes strategy place.isLast (transport (history ++ [request]))) :
    along transport strategy history (place :: others) =
      ([request], settled request.url.text (transport (history ++ [request]))) := by
  simp [along, prepared, stops]

/-- Behind an exhausted walk the next places are walked, after the requests made so far. -/
theorem along_append_of_exhausted {history : List ConfigRequest} {first : List Place}
    (exhausted : (along transport strategy history first).2 = .exhausted) (second : List Place) :
    along transport strategy history (first ++ second) =
      ((along transport strategy history first).1 ++
          (along transport strategy (history ++ (along transport strategy history first).1) second).1,
        (along transport strategy (history ++ (along transport strategy history first).1) second).2) := by
  induction first generalizing history with
  | nil => simp [along]
  | cons place others inductionHypothesis =>
      cases prepared : place.request with
      | error error => simp [along_cons_error prepared] at exhausted
      | ok request =>
          by_cases passes : Passes strategy place.isLast (transport (history ++ [request]))
          · rw [along_cons_pass prepared passes] at exhausted
            have rest := inductionHypothesis exhausted
            simp [along_cons_pass prepared passes, rest]
          · rw [along_cons_stop prepared passes] at exhausted
            have notBeyond := not_isBeyond_settled request.url.text
              (transport (history ++ [request]))
            simp only at exhausted
            rw [exhausted] at notBeyond
            exact absurd trivial notBeyond

/-- A walk that stops does not see the places behind. -/
theorem along_append_of_stopped {history : List ConfigRequest} {first : List Place}
    (stopped : (along transport strategy history first).2 ≠ .exhausted) (second : List Place) :
    along transport strategy history (first ++ second) = along transport strategy history first := by
  induction first generalizing history with
  | nil => simp [along] at stopped
  | cons place others inductionHypothesis =>
      cases prepared : place.request with
      | error error => simp [along_cons_error prepared]
      | ok request =>
          by_cases passes : Passes strategy place.isLast (transport (history ++ [request]))
          · rw [along_cons_pass prepared passes] at stopped
            have rest := inductionHypothesis stopped
            simp [along_cons_pass prepared passes, rest]
          · simp [along_cons_stop prepared passes]

/-! ### What a walk says about the answers -/

/-- How the requests and the ending of a walk over some places belong to the answers. -/
structure Report (transport : Transport) (strategy : UriStrategy) (history : List ConfigRequest)
    (places : List Place) (requests : List ConfigRequest) (ending : Ending) : Prop where
  inOrder : requests.map Except.ok <+: places.map Place.request
  passes : ∀ (position : Nat) (place : Place), position < requests.length →
    places[position]? = some place →
    (Passes strategy place.isLast (transport (history ++ requests.take (position + 1))) ↔
      position + 1 < requests.length ∨ ending.IsBeyond)
  exhausted : ending = .exhausted → requests.length = places.length
  unprepared : ∀ error, ending = .unprepared error →
    (places.map Place.request)[requests.length]? = some (.error error)
  stopped : ¬ ending.IsBeyond → ∃ request, requests.getLast? = some request ∧
    ending = settled request.url.text (transport (history ++ requests))

private theorem report_cons_pass {history : List ConfigRequest} {place : Place}
    {others : List Place} {request : ConfigRequest} {requests : List ConfigRequest}
    {ending : Ending} (prepared : place.request = .ok request)
    (passes : Passes strategy place.isLast (transport (history ++ [request])))
    (rest : Report transport strategy (history ++ [request]) others requests ending) :
    Report transport strategy history (place :: others) (request :: requests) ending where
  inOrder := by
    simpa [prepared] using rest.inOrder
  passes position visited below reached := by
    cases position with
    | zero =>
        have isPlace : visited = place := by simpa using reached.symm
        subst isPlace
        -- An ending by an answer needs a request, so it lies behind the first place.
        have goesOn : 1 < (request :: requests).length ∨ ending.IsBeyond := by
          by_cases beyond : ending.IsBeyond
          · exact .inr beyond
          · obtain ⟨last, isLast, _⟩ := rest.stopped beyond
            cases requests with
            | nil => simp at isLast
            | cons _ _ => simp
        simpa [passes] using goesOn
    | succ position =>
        have step := rest.passes position visited (by simpa using below) (by simpa using reached)
        simpa [List.append_assoc] using step
  exhausted isExhausted := by
    simp [rest.exhausted isExhausted]
  unprepared error isUnprepared := by
    simpa using rest.unprepared error isUnprepared
  stopped isStopped := by
    obtain ⟨last, isLast, isSettled⟩ := rest.stopped isStopped
    refine ⟨last, ?_, ?_⟩
    · simp [List.getLast?_cons, isLast]
    · simpa [List.append_assoc] using isSettled

private theorem report_cons_stop {history : List ConfigRequest} {place : Place}
    {others : List Place} {request : ConfigRequest} (prepared : place.request = .ok request)
    (stops : ¬ Passes strategy place.isLast (transport (history ++ [request]))) :
    Report transport strategy history (place :: others) [request]
      (settled request.url.text (transport (history ++ [request]))) := by
  have notBeyond := not_isBeyond_settled request.url.text (transport (history ++ [request]))
  refine ⟨?_, ?_, ?_, ?_, ?_⟩
  · simp [prepared]
  · intro position visited below reached
    have isFirst : position = 0 := by simpa using below
    subst isFirst
    have isPlace : visited = place := by simpa using reached.symm
    subst isPlace
    simp [stops, notBeyond]
  · intro isExhausted
    rw [isExhausted] at notBeyond
    exact absurd trivial notBeyond
  · intro error isUnprepared
    rw [isUnprepared] at notBeyond
    exact absurd trivial notBeyond
  · intro _
    exact ⟨request, rfl, rfl⟩

/-- Every walk is described by its report. -/
theorem along_report (transport : Transport) (strategy : UriStrategy)
    (history : List ConfigRequest) (places : List Place) :
    Report transport strategy history places (along transport strategy history places).1
      (along transport strategy history places).2 := by
  induction places generalizing history with
  | nil => constructor <;> simp [along, Ending.IsBeyond]
  | cons place others inductionHypothesis =>
      cases prepared : place.request with
      | error error =>
          rw [along_cons_error prepared]
          constructor <;> simp [Ending.IsBeyond, prepared]
      | ok request =>
          by_cases passes : Passes strategy place.isLast (transport (history ++ [request]))
          · rw [along_cons_pass prepared passes]
            exact report_cons_pass prepared passes (inductionHypothesis _)
          · rw [along_cons_stop prepared passes]
            exact report_cons_stop prepared passes

end Along

end RemoteConfig.Walk
