import Mathlib.Tactic.ByContra
import RemoteConfig.Proofs.Client.Preparation
import RemoteConfig.Proofs.Client.Search

/-!
Contract: the order in which a resolution asks its servers, and the answers at which it stops.

Owns:
- the positions of labels and servers in label-major order, and the request of each;
- what it means that a search comes to a position, locates an environment, ends a label or stops;
- `locate_labelMajor`: the requests are a prefix of the requests at these positions, and the
  answers alone decide how far the search comes and what it finds.

Does not own: what becomes of a search that found nothing.
-/

namespace RemoteConfig.Walk

/-- The positions of labels and servers: each label over all servers. -/
def positions (labels servers : Nat) : List (Nat × Nat) :=
  (List.range labels).flatMap fun label => (List.range servers).map fun server => (label, server)

/-- An earlier label, or the same label and an earlier server. -/
def Before (first second : Nat × Nat) : Prop :=
  first.1 < second.1 ∨ (first.1 = second.1 ∧ first.2 < second.2)

/-- The positions of a resolution. -/
def route (resource : ConfigResource) (context : LoadContext) : List (Nat × Nat) :=
  positions resource.settings.candidateLabels.length (servers resource context).length

/-- The request at a position, or the reason why there is none. -/
def planned (resource : ConfigResource) (context : LoadContext) (position : Nat × Nat) :
    Except FetchError ConfigRequest :=
  (ConfigRequest.sharedHeaders resource.settings context.state).bind fun shared =>
    ask resource.settings (servers resource context)
      (labelQuery resource (resource.settings.candidateLabels.getD position.1 "")) shared position.2

/-- A search comes to the position of the given number: it makes the request there, or ends there
for want of a request, or has left all positions behind. -/
def ComesTo (resource : ConfigResource) (context : LoadContext) (search : Fetched)
    (number : Nat) : Prop :=
  number < search.requests.length ∨
    (number = search.requests.length ∧
      (search.outcome = .ok none ∨
        ∃ error, ((route resource context).map (planned resource context))[number]? =
            some (.error error) ∧
          search.outcome = .error error))

/-- The answer to a request of a search, by the number of the request. -/
def answer (transport : Transport) (history : List ConfigRequest) (search : Fetched)
    (number : Nat) : Except TransportFailure HttpReply :=
  transport (history ++ search.requests.take (number + 1))

/-- Is a position one of the last server? -/
def atLastServer (resource : ConfigResource) (context : LoadContext) (position : Nat × Nat) : Bool :=
  position.2 + 1 == (servers resource context).length

/-- The answer to the last request of a search is an environment. -/
def Locates (transport : Transport) (history : List ConfigRequest) (search : Fetched)
    (environment : Environment) : Prop :=
  search.requests ≠ [] ∧ ∃ reply, transport (history ++ search.requests) = .ok reply ∧
    reply.status = 200 ∧ Environment.parse? reply.body = some environment

/-- A label ends without a result: its last server does not know the environment, or there is no
server at all and the headers may be sent. -/
def LabelEnds (transport : Transport) (resource : ConfigResource) (context : LoadContext)
    (history : List ConfigRequest) (search : Fetched) (label : Nat) : Prop :=
  ((servers resource context).length = 0 ∧
    ∃ shared, ConfigRequest.sharedHeaders resource.settings context.state = .ok shared) ∨
  (0 < (servers resource context).length ∧
    (label + 1) * (servers resource context).length ≤ search.requests.length ∧
    ∃ reply, answer transport history search
        ((label + 1) * (servers resource context).length - 1) = .ok reply ∧
      reply.status = 404)

/-- A failure stops a search: that of the last request, or of preparing the next one after all
answers have passed, or, without servers, of the headers. -/
def StopsWith (transport : Transport) (resource : ConfigResource) (context : LoadContext)
    (history : List ConfigRequest) (search : Fetched) (error : FetchError) : Prop :=
  (∃ request position, search.requests.getLast? = some request ∧
    (route resource context)[search.requests.length - 1]? = some position ∧
    ¬ Passes resource.settings.strategy (atLastServer resource context position)
      (transport (history ++ search.requests)) ∧
    Fetch.interpret request.url.text (transport (history ++ search.requests)) = .error error) ∨
  ((search.requests = [] ∨ ∃ position,
      (route resource context)[search.requests.length - 1]? = some position ∧
      Passes resource.settings.strategy (atLastServer resource context position)
        (transport (history ++ search.requests))) ∧
    ((route resource context).map (planned resource context))[search.requests.length]? =
      some (.error error)) ∨
  ((servers resource context).length = 0 ∧
    ConfigRequest.sharedHeaders resource.settings context.state = .error error)

/-- A search over labels and servers that is driven by the answers alone. -/
structure LabelMajor (transport : Transport) (resource : ConfigResource) (context : LoadContext)
    (history : List ConfigRequest) (search : Fetched) : Prop where
  /-- The requests are those at the first positions. -/
  inOrder : search.requests.map Except.ok <+:
    (route resource context).map (planned resource context)
  /-- No position stands twice, and labels and servers stand in their order. -/
  ordered : (route resource context).Pairwise Before
  /-- The search goes past a request exactly when the answer to it passes. -/
  passes : ∀ (number : Nat) (position : Nat × Nat), number < search.requests.length →
    (route resource context)[number]? = some position →
    (ComesTo resource context search (number + 1) ↔
      Passes resource.settings.strategy (atLastServer resource context position)
        (answer transport history search number))
  /-- An environment is located exactly by the answer to the last request. -/
  located : ∀ environment, search.outcome = .ok (some environment) ↔
    Locates transport history search environment
  /-- The search comes behind a label exactly when the label ends without a result. -/
  labelEnds : ∀ label < resource.settings.candidateLabels.length,
    (ComesTo resource context search ((label + 1) * (servers resource context).length) ↔
      LabelEnds transport resource context history search label)
  /-- Any other end is a failure. -/
  failed : ∀ error, search.outcome = .error error ↔
    StopsWith transport resource context history search error

/-! ### Positions -/

theorem positions_eq_map (labels servers : Nat) :
    positions labels servers =
      (List.range (labels * servers)).map fun number => (number / servers, number % servers) := by
  induction labels with
  | zero => simp [positions]
  | succ labels inductionHypothesis =>
      unfold positions at inductionHypothesis ⊢
      rw [List.range_succ, List.flatMap_append, inductionHypothesis, Nat.succ_mul, List.range_add,
        List.map_append]
      congr 1
      simp only [List.flatMap_cons, List.flatMap_nil, List.append_nil, List.map_map]
      apply List.map_congr_left
      intro server member
      have below : server < servers := List.mem_range.mp member
      have positive : 0 < servers := by omega
      simp [Nat.mul_comm labels, Nat.mul_add_div positive, Nat.div_eq_of_lt below,
        Nat.mod_eq_of_lt below]

theorem positions_pairwise (labels servers : Nat) : (positions labels servers).Pairwise Before := by
  unfold positions
  rw [List.pairwise_flatMap]
  constructor
  · intro label _
    rw [List.pairwise_map]
    exact List.pairwise_lt_range.imp fun below => .inr ⟨rfl, below⟩
  · apply List.pairwise_lt_range.imp
    intro first second below left leftMember right rightMember
    simp only [List.mem_map] at leftMember rightMember
    obtain ⟨_, _, rfl⟩ := leftMember
    obtain ⟨_, _, rfl⟩ := rightMember
    exact .inl below

/-- The last position of a label is the one of the last server. -/
theorem positions_labelEnd {labels servers label : Nat} (below : label < labels)
    (positive : 0 < servers) :
    (positions labels servers)[(label + 1) * servers - 1]? = some (label, servers - 1) := by
  have number : (label + 1) * servers - 1 = servers * label + (servers - 1) := by
    rw [Nat.succ_mul, Nat.mul_comm]
    omega
  have inRange : servers * label + (servers - 1) < labels * servers := by
    have step : (label + 1) * servers ≤ labels * servers := Nat.mul_le_mul_right servers below
    rw [Nat.succ_mul, Nat.mul_comm label] at step
    omega
  have last : servers - 1 < servers := by omega
  rw [positions_eq_map, number, List.getElem?_map, List.getElem?_range inRange]
  simp [Nat.mul_add_div positive, Nat.div_eq_of_lt last, Nat.mod_eq_of_lt last]

/-! ### The places of a resolution -/

section Resolution

variable {transport : Transport} {resource : ConfigResource} {context : LoadContext}
  {history : List ConfigRequest}

theorem range_map_getD (labels : List String) :
    (List.range labels.length).map (fun label => labels.getD label "") = labels := by
  apply List.ext_getElem
  · simp
  · intro label below _
    have inRange : label < labels.length := by simpa using below
    simp [List.getD_eq_getElem?_getD, inRange]

/-- The place at a position. -/
def placeAt (resource : ConfigResource) (context : LoadContext) (position : Nat × Nat) : Place :=
  ⟨planned resource context position, atLastServer resource context position⟩

/-- Under headers that may be sent, the places of a resolution are those of its positions. -/
theorem places_eq_map {shared : List (String × String)}
    (headers : ConfigRequest.sharedHeaders resource.settings context.state = .ok shared) :
    places resource context resource.settings.candidateLabels =
      (route resource context).map (placeAt resource context) := by
  unfold places route positions
  conv => lhs; rw [← range_map_getD resource.settings.candidateLabels]
  rw [List.flatMap_map, List.map_flatMap]
  congr 1
  funext label
  simp [labelPlaces, headers, serverPlace, placeAt, planned, atLastServer, Except.bind]

theorem candidateLabels_ne_nil (settings : ClientSettings) : settings.candidateLabels ≠ [] := by
  unfold ClientSettings.candidateLabels
  split
  · simp
  · split
    · simp
    · simpa [Text.splitAt] using Text.splitChars_ne_nil ',' _

variable (transport history) in
/-- Headers that may not be sent end the search before any request. -/
theorem locate_of_headers_error {error : FetchError}
    (headers : ConfigRequest.sharedHeaders resource.settings context.state = .error error) :
    (Resolve.locate transport resource context history).requests = [] ∧
      (Resolve.locate transport resource context history).outcome = .error error := by
  have search := locate_eq_along transport resource context history
  cases labels : resource.settings.candidateLabels with
  | nil => exact absurd labels (candidateLabels_ne_nil _)
  | cons label others =>
      rw [labels, places_cons, labelPlaces, headers] at search
      simpa [summary, concluded, along, Ending.outcome] using search

variable (transport history) in
/-- Under headers that may be sent, a report describes the search. -/
theorem locate_report {shared : List (String × String)}
    (headers : ConfigRequest.sharedHeaders resource.settings context.state = .ok shared) :
    ∃ ending, (Resolve.locate transport resource context history).outcome = ending.outcome ∧
      Report transport resource.settings.strategy history
        ((route resource context).map (placeAt resource context))
        (Resolve.locate transport resource context history).requests ending := by
  have search := locate_eq_along transport resource context history
  rw [places_eq_map headers] at search
  simp only [summary, concluded, Prod.mk.injEq] at search
  refine ⟨_, search.2, ?_⟩
  rw [search.1]
  exact along_report ..

theorem isPreparation_of_planned {position : Nat × Nat} {error : FetchError}
    (fails : planned resource context position = .error error) : error.IsPreparation := by
  rcases bind_eq_error fails with headers | ⟨_, _, later⟩
  · exact ConfigRequest.isPreparation_of_sharedHeaders headers
  · rcases bind_eq_error later with place | ⟨_, _, request⟩
    · exact ServerTargets.isPreparation_of_credentials place
    · exact ConfigRequest.isPreparation_of_build request

theorem map_request_placeAt :
    ((route resource context).map (placeAt resource context)).map Place.request =
      (route resource context).map (planned resource context) := by
  rw [List.map_map]
  rfl

/-! ### Reading a report at the positions -/

variable {search : Fetched} {ending : Ending}

/-- A search described by a report went past all its requests exactly when it ran out of positions
or stands at one without a request. -/
theorem isBeyond_iff (outcome : search.outcome = ending.outcome)
    (report : Report transport resource.settings.strategy history
      ((route resource context).map (placeAt resource context)) search.requests ending) :
    ending.IsBeyond ↔ search.outcome = .ok none ∨
      ∃ error, ((route resource context).map (planned resource context))[search.requests.length]? =
          some (.error error) ∧
        search.outcome = .error error := by
  rw [outcome]
  cases ends : ending with
  | exhausted => simp [Ending.IsBeyond, Ending.outcome]
  | unprepared error =>
      have reason := report.unprepared error ends
      rw [map_request_placeAt] at reason
      simp [Ending.IsBeyond, Ending.outcome, reason]
  | located environment => simp [Ending.IsBeyond, Ending.outcome]
  | refused error =>
      -- The failure of an answer is never the failure of preparing a request.
      obtain ⟨request, _, settles⟩ := report.stopped (by simp [ends, Ending.IsBeyond])
      have refused : Fetch.interpret request.url.text (transport (history ++ search.requests)) =
          .error error := by
        rw [ends] at settles
        unfold settled at settles
        split at settles
        · cases settles
        · rename_i read
          cases settles
          exact read
      simp only [Ending.IsBeyond, Ending.outcome, reduceCtorEq, Except.error.injEq, false_or,
        false_iff, not_exists, not_and]
      intro other reason same
      subst same
      rw [List.getElem?_map, Option.map_eq_some_iff] at reason
      obtain ⟨position, _, fails⟩ := reason
      exact Fetch.not_isPreparation_of_interpret refused (isPreparation_of_planned fails)

theorem comesTo_iff (outcome : search.outcome = ending.outcome)
    (report : Report transport resource.settings.strategy history
      ((route resource context).map (placeAt resource context)) search.requests ending)
    (number : Nat) :
    ComesTo resource context search number ↔
      number < search.requests.length ∨ (number = search.requests.length ∧ ending.IsBeyond) := by
  rw [isBeyond_iff outcome report]
  constructor
  · rintro (below | ⟨rfl, beyond⟩)
    · exact .inl below
    · exact .inr ⟨rfl, beyond⟩
  · rintro (below | ⟨rfl, beyond⟩)
    · exact .inl below
    · exact .inr ⟨rfl, beyond⟩

/-- The search goes past a request exactly when the answer to it passes. -/
theorem comesTo_succ_iff_passes (outcome : search.outcome = ending.outcome)
    (report : Report transport resource.settings.strategy history
      ((route resource context).map (placeAt resource context)) search.requests ending)
    {number : Nat} {position : Nat × Nat} (made : number < search.requests.length)
    (stands : (route resource context)[number]? = some position) :
    ComesTo resource context search (number + 1) ↔
      Passes resource.settings.strategy (atLastServer resource context position)
        (answer transport history search number) := by
  have step := report.passes number (placeAt resource context position) made (by simp [stands])
  rw [comesTo_iff outcome report]
  refine Iff.trans ?_ step.symm
  constructor
  · rintro (below | ⟨_, beyond⟩)
    · exact .inl below
    · exact .inr beyond
  · rintro (below | beyond)
    · exact .inl below
    · by_cases last : number + 1 = search.requests.length
      · exact .inr ⟨last, beyond⟩
      · exact .inl (by omega)

/-- The last request of the search has its position. -/
theorem exists_last_position (report : Report transport resource.settings.strategy history
      ((route resource context).map (placeAt resource context)) search.requests ending)
    (made : search.requests ≠ []) :
    ∃ position, (route resource context)[search.requests.length - 1]? = some position := by
  have positive : 0 < search.requests.length := List.length_pos_iff.mpr made
  have atMost := report.inOrder.length_le
  rw [map_request_placeAt] at atMost
  have below : search.requests.length - 1 < (route resource context).length := by
    simp only [List.length_map] at atMost
    omega
  exact ⟨_, List.getElem?_eq_getElem below⟩

/-- The last request of a search was passed exactly when the search went past all its requests. -/
theorem passes_last_iff (report : Report transport resource.settings.strategy history
      ((route resource context).map (placeAt resource context)) search.requests ending)
    {position : Nat × Nat} (made : search.requests ≠ [])
    (stands : (route resource context)[search.requests.length - 1]? = some position) :
    Passes resource.settings.strategy (atLastServer resource context position)
        (transport (history ++ search.requests)) ↔ ending.IsBeyond := by
  have positive : 0 < search.requests.length := List.length_pos_iff.mpr made
  have last : search.requests.length - 1 + 1 = search.requests.length := by omega
  have step := report.passes (search.requests.length - 1) (placeAt resource context position)
    (by omega) (by simp [stands])
  rw [last, List.take_length] at step
  simpa [placeAt] using step

/-- A search that was settled by an answer was settled by the last one. -/
theorem settled_iff (report : Report transport resource.settings.strategy history
      ((route resource context).map (placeAt resource context)) search.requests ending)
    (outcome : Ending) (byAnswer : ¬ outcome.IsBeyond) :
    ending = outcome ↔ ∃ request position, search.requests.getLast? = some request ∧
      (route resource context)[search.requests.length - 1]? = some position ∧
      ¬ Passes resource.settings.strategy (atLastServer resource context position)
        (transport (history ++ search.requests)) ∧
      settled request.url.text (transport (history ++ search.requests)) = outcome := by
  constructor
  · rintro rfl
    obtain ⟨request, last, settles⟩ := report.stopped byAnswer
    have made : search.requests ≠ [] := by
      rintro none
      simp [none] at last
    obtain ⟨position, stands⟩ := exists_last_position report made
    exact ⟨request, position, last, stands, (not_congr (passes_last_iff report made stands)).mpr byAnswer,
      settles.symm⟩
  · rintro ⟨request, position, last, stands, stops, settles⟩
    have made : search.requests ≠ [] := by
      rintro none
      simp [none] at last
    have notBeyond := (not_congr (passes_last_iff report made stands)).mp stops
    obtain ⟨other, isLast, ends⟩ := report.stopped notBeyond
    have same : other = request := by simpa [isLast] using last
    rw [ends, same, settles]

theorem settled_eq_located_iff {uri : String} {answer : Except TransportFailure HttpReply}
    {environment : Environment} :
    settled uri answer = .located environment ↔
      ∃ reply, answer = .ok reply ∧ reply.status = 200 ∧
        Environment.parse? reply.body = some environment := by
  cases answer with
  | error failure => simp [settled, Fetch.interpret]
  | ok reply =>
      by_cases found : reply.status = 200
      · cases parsed : Environment.parse? reply.body <;>
          simp [settled, Fetch.interpret, found, parsed]
      · by_cases unknown : reply.status = 404 <;> simp [settled, Fetch.interpret, found, unknown]

theorem settled_eq_refused_iff {uri : String} {answer : Except TransportFailure HttpReply}
    {error : FetchError} :
    settled uri answer = .refused error ↔ Fetch.interpret uri answer = .error error := by
  unfold settled
  split <;> simp [*]

theorem not_passes_of_found {strategy : UriStrategy} {isLast : Bool} {reply : HttpReply}
    {environment : Environment} (found : reply.status = 200)
    (parsed : Environment.parse? reply.body = some environment) :
    ¬ Passes strategy isLast (.ok reply) := by
  simp [Passes, found, parsed]

/-- An environment is located exactly by the answer to the last request. -/
theorem outcome_eq_located_iff (outcome : search.outcome = ending.outcome)
    (report : Report transport resource.settings.strategy history
      ((route resource context).map (placeAt resource context)) search.requests ending)
    (environment : Environment) :
    search.outcome = .ok (some environment) ↔
      Locates transport history search environment := by
  have isLocated : search.outcome = .ok (some environment) ↔ ending = .located environment := by
    rw [outcome]
    cases ending <;> simp [Ending.outcome]
  rw [isLocated, settled_iff report _ id]
  constructor
  · rintro ⟨request, position, last, _, _, settles⟩
    refine ⟨?_, settled_eq_located_iff.mp settles⟩
    rintro none
    simp [none] at last
  · rintro ⟨made, reply, answered, found, parsed⟩
    obtain ⟨position, stands⟩ := exists_last_position report made
    refine ⟨_, position, List.getLast?_eq_some_getLast made, stands, ?_, ?_⟩
    · rw [answered]
      exact not_passes_of_found found parsed
    · exact settled_eq_located_iff.mpr ⟨reply, answered, found, parsed⟩

/-- At the last server only an unknown environment passes. -/
theorem passes_at_last_iff {strategy : UriStrategy} {answer : Except TransportFailure HttpReply} :
    Passes strategy true answer ↔ ∃ reply, answer = .ok reply ∧ reply.status = 404 := by
  cases answer <;> simp [Passes]

/-- With servers, a label ends without a result exactly when its last server does not know the
environment. -/
theorem comesTo_labelEnd_iff (outcome : search.outcome = ending.outcome)
    (report : Report transport resource.settings.strategy history
      ((route resource context).map (placeAt resource context)) search.requests ending)
    {label : Nat} (below : label < resource.settings.candidateLabels.length)
    (positive : 0 < (servers resource context).length) :
    ComesTo resource context search ((label + 1) * (servers resource context).length) ↔
      (label + 1) * (servers resource context).length ≤ search.requests.length ∧
        ∃ reply, answer transport history search
            ((label + 1) * (servers resource context).length - 1) = .ok reply ∧
          reply.status = 404 := by
  have stands : (route resource context)[(label + 1) * (servers resource context).length - 1]? =
      some (label, (servers resource context).length - 1) := positions_labelEnd below positive
  have isLast : atLastServer resource context (label, (servers resource context).length - 1) =
      true := by
    simp [atLastServer, Nat.sub_add_cancel positive]
  have atLeastOne : 0 < (label + 1) * (servers resource context).length :=
    Nat.mul_pos (by omega) positive
  have number : (label + 1) * (servers resource context).length - 1 + 1 =
      (label + 1) * (servers resource context).length := by omega
  by_cases made : (label + 1) * (servers resource context).length - 1 < search.requests.length
  · have step := comesTo_succ_iff_passes outcome report made stands
    rw [number, isLast, passes_at_last_iff] at step
    rw [step]
    constructor
    · intro unknown
      exact ⟨by omega, unknown⟩
    · rintro ⟨_, unknown⟩
      exact unknown
  · rw [comesTo_iff outcome report]
    constructor
    · rintro (reached | ⟨reached, _⟩) <;> omega
    · rintro ⟨reached, _⟩
      omega

/-- Without servers, a search under headers that may be sent goes past all labels. -/
theorem comesTo_of_no_servers (outcome : search.outcome = ending.outcome)
    (report : Report transport resource.settings.strategy history
      ((route resource context).map (placeAt resource context)) search.requests ending)
    (none : (servers resource context).length = 0) :
    ComesTo resource context search 0 := by
  have noPositions : route resource context = [] := by
    simp [route, positions, none]
  have noRequests : search.requests = [] := by
    simpa [noPositions] using report.inOrder
  have beyond : ending.IsBeyond := by
    by_contra byAnswer
    obtain ⟨request, last, _⟩ := report.stopped byAnswer
    simp [noRequests] at last
  rw [comesTo_iff outcome report]
  exact .inr ⟨by simp [noRequests], beyond⟩

/-- A failure ends the search exactly when it is that of the last answer, or that of preparing the
next request after all answers have passed. -/
theorem outcome_eq_error_iff (outcome : search.outcome = ending.outcome)
    (report : Report transport resource.settings.strategy history
      ((route resource context).map (placeAt resource context)) search.requests ending)
    (error : FetchError) :
    search.outcome = .error error ↔
      (∃ request position, search.requests.getLast? = some request ∧
        (route resource context)[search.requests.length - 1]? = some position ∧
        ¬ Passes resource.settings.strategy (atLastServer resource context position)
          (transport (history ++ search.requests)) ∧
        Fetch.interpret request.url.text (transport (history ++ search.requests)) =
          .error error) ∨
      ((search.requests = [] ∨ ∃ position,
          (route resource context)[search.requests.length - 1]? = some position ∧
          Passes resource.settings.strategy (atLastServer resource context position)
            (transport (history ++ search.requests))) ∧
        ((route resource context).map (planned resource context))[search.requests.length]? =
          some (.error error)) := by
  have split : search.outcome = .error error ↔
      ending = .refused error ∨ ending = .unprepared error := by
    rw [outcome]
    cases ending <;> simp [Ending.outcome]
  rw [split, settled_iff report (.refused error) id]
  simp only [settled_eq_refused_iff]
  refine or_congr Iff.rfl ?_
  constructor
  · intro ends
    refine ⟨?_, map_request_placeAt ▸ report.unprepared error ends⟩
    by_cases made : search.requests = []
    · exact .inl made
    · obtain ⟨position, stands⟩ := exists_last_position report made
      refine .inr ⟨position, stands, (passes_last_iff report made stands).mpr ?_⟩
      rw [ends]
      trivial
  · rintro ⟨passed, reason⟩
    have beyond : ending.IsBeyond := by
      by_contra byAnswer
      obtain ⟨request, last, _⟩ := report.stopped byAnswer
      rcases passed with none | ⟨position, stands, passes⟩
      · simp [none] at last
      · have made : search.requests ≠ [] := by
          rintro none
          simp [none] at last
        exact byAnswer ((passes_last_iff report made stands).mp passes)
    cases ends : ending with
    | exhausted =>
        have all := report.exhausted ends
        rw [List.length_map] at all
        simp [all] at reason
    | unprepared other =>
        have same := report.unprepared other ends
        rw [map_request_placeAt, reason] at same
        simpa using same.symm
    | located environment => simp [ends, Ending.IsBeyond] at beyond
    | refused other => simp [ends, Ending.IsBeyond] at beyond

/-! ### The search of a resolution -/

private theorem labelMajor_of_report {shared : List (String × String)}
    (headers : ConfigRequest.sharedHeaders resource.settings context.state = .ok shared)
    (outcome : search.outcome = ending.outcome)
    (report : Report transport resource.settings.strategy history
      ((route resource context).map (placeAt resource context)) search.requests ending) :
    LabelMajor transport resource context history search where
  inOrder := map_request_placeAt ▸ report.inOrder
  ordered := positions_pairwise ..
  passes _ _ made stands := comesTo_succ_iff_passes outcome report made stands
  located := outcome_eq_located_iff outcome report
  labelEnds label below := by
    by_cases none : (servers resource context).length = 0
    · have reached := comesTo_of_no_servers outcome report none
      simp [LabelEnds, none, headers, reached]
    · have positive : 0 < (servers resource context).length := Nat.pos_of_ne_zero none
      rw [comesTo_labelEnd_iff outcome report below positive]
      simp [LabelEnds, none, positive]
  failed error := by
    rw [outcome_eq_error_iff outcome report error, StopsWith, headers]
    simp

theorem planned_of_headers_error {reason : FetchError}
    (headers : ConfigRequest.sharedHeaders resource.settings context.state = .error reason)
    (position : Nat × Nat) : planned resource context position = .error reason := by
  simp [planned, headers, Except.bind]

theorem route_eq_nil_iff : route resource context = [] ↔ (servers resource context).length = 0 := by
  have labels := List.length_pos_iff.mpr (candidateLabels_ne_nil resource.settings)
  rw [route, positions_eq_map, List.map_eq_nil_iff, List.range_eq_nil, Nat.mul_eq_zero]
  omega

private theorem labelMajor_of_headers_error {reason : FetchError}
    (headers : ConfigRequest.sharedHeaders resource.settings context.state = .error reason)
    (noRequests : search.requests = []) (outcome : search.outcome = .error reason) :
    LabelMajor transport resource context history search where
  inOrder := by simp [noRequests]
  ordered := positions_pairwise ..
  passes number _ made _ := by simp [noRequests] at made
  located := by simp [Locates, noRequests, outcome]
  labelEnds label _ := by
    by_cases noServers : (servers resource context).length = 0
    · have noPositions := route_eq_nil_iff.mpr noServers
      simp [ComesTo, LabelEnds, noServers, noRequests, outcome, headers, noPositions]
    · have positive : 0 < (servers resource context).length := Nat.pos_of_ne_zero noServers
      have atLeastOne : 0 < (label + 1) * (servers resource context).length :=
        Nat.mul_pos (by omega) positive
      have unreached : (label + 1) * (servers resource context).length ≠ 0 := by omega
      simp only [ComesTo, LabelEnds, noRequests, List.length_nil, Nat.not_lt_zero, unreached, noServers,
        Nat.le_zero_eq, false_and, and_false, or_false]
  failed error := by
    by_cases noServers : (servers resource context).length = 0
    · have noPositions := route_eq_nil_iff.mpr noServers
      simp [StopsWith, noRequests, outcome, headers, noPositions, noServers]
    · cases stands : route resource context with
      | nil => exact absurd (route_eq_nil_iff.mp stands) noServers
      | cons first others =>
          simp [StopsWith, noRequests, outcome, noServers, stands, planned_of_headers_error headers]

end Resolution

/-- Every search over labels and servers is driven by the answers alone. -/
theorem locate_labelMajor (transport : Transport) (resource : ConfigResource)
    (context : LoadContext) (history : List ConfigRequest) :
    LabelMajor transport resource context history
      (Resolve.locate transport resource context history) := by
  cases headers : ConfigRequest.sharedHeaders resource.settings context.state with
  | error reason =>
      obtain ⟨noRequests, outcome⟩ := locate_of_headers_error transport history headers
      exact labelMajor_of_headers_error headers noRequests outcome
  | ok shared =>
      obtain ⟨ending, outcome, report⟩ := locate_report transport history headers
      exact labelMajor_of_report headers outcome report

/-- A resolution asks label by label and server by server, what it finds is decided by the answers
alone, and a located environment becomes its data. -/
theorem resolution_labelMajor (loader : Loader) (resource : ConfigResource)
    (context : LoadContext) (history : List ConfigRequest) :
    LabelMajor loader.transport resource context history
        (Resolve.locate loader.transport resource context history) ∧
      (loader.resolve history ⟨resource, context⟩).requests =
        (Resolve.locate loader.transport resource context history).requests ∧
      ∀ data, (loader.resolve history ⟨resource, context⟩).outcome = .ok (some data) ↔
        ∃ environment, (Resolve.locate loader.transport resource context history).outcome =
            .ok (some environment) ∧
          data = ConfigData.assemble environment resource.acceptedProfiles := by
  refine ⟨locate_labelMajor .., loader.resolve_requests history ⟨resource, context⟩, ?_⟩
  intro data
  rw [loader.resolve_outcome history ⟨resource, context⟩, Resolve.conclusion_eq_some_iff]

/-- A resource without servers whose custom header may not be sent. -/
def unsendable : ConfigResource :=
  .required { ClientSettings.defaults with uris := [], headers := [("bad header", "x")] } []

/-- The search for that resource; no server is reached. -/
def unsendableSearch : Fetched :=
  Resolve.locate (fun _ => .error .requestFailed) unsendable ⟨none, none⟩ []

private theorem unsendableSearch_ends :
    unsendableSearch.requests = [] ∧
      unsendableSearch.outcome = .error (.configuration (.invalidHeaderName "bad header")) := by
  apply locate_of_headers_error
  have builtIn : ConfigRequest.builtInHeaders unsendable.settings none =
      [("Accept", ClientSettings.defaultMediaType), ("Accept-Charset", "UTF-8")] := rfl
  have custom : ConfigRequest.customHeaders unsendable.settings = [("bad header", "x")] := rfl
  have names : Header.isValidName "Accept" = true ∧ Header.isValidName "Accept-Charset" = true ∧
      Header.isValidName "bad header" = false := by decide
  have values : Header.isValidValue ClientSettings.defaultMediaType = true ∧
      Header.isValidValue "UTF-8" = true := by decide
  simp [ConfigRequest.sharedHeaders, builtIn, custom, ConfigRequest.checkHeader, names, values]
  rfl

/-- Without servers a label may still fail: its headers are checked all the same. -/
theorem labelEnds_fails_of_unsendable_header :
    ¬ (ComesTo unsendable ⟨none, none⟩ unsendableSearch
          ((0 + 1) * (servers unsendable ⟨none, none⟩).length) ↔
        (servers unsendable ⟨none, none⟩).length = 0 ∨
          ∃ reply, answer (fun _ => .error .requestFailed) [] unsendableSearch
              ((0 + 1) * (servers unsendable ⟨none, none⟩).length - 1) = .ok reply ∧
            reply.status = 404) := by
  obtain ⟨noRequests, outcome⟩ := unsendableSearch_ends
  have noServers : (servers unsendable ⟨none, none⟩).length = 0 := rfl
  have noPositions := route_eq_nil_iff.mpr noServers
  simp [ComesTo, noServers, noRequests, outcome, noPositions]

end RemoteConfig.Walk
