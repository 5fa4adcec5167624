import Viewpoint.Query.Response

/-! Backends that answer requests, among them one with prepared answers. -/

namespace Viewpoint

/-- An answer of a backend, and its state afterwards. -/
abbrev Answer (σ α : Type) := Except FetchFailure α × σ

/-- A service that answers requests from a state that may change with each of them. -/
structure Backend (σ : Type) where
  options : σ → OptionsRequest → Answer σ Candidates
  aggregated : σ → AggregatedRequest → Answer σ AggregatedResponse
  timeseries : σ → TimeseriesRequest → Answer σ TimeseriesResponse
  metrics : σ → MetricsRequest → Answer σ MetricsResponse

namespace Backend

variable {σ : Type}

/-- Turns an answer of one endpoint into a response. -/
def respond {α : Type} (wrap : α → Response) (answer : Answer σ α) : Answer σ Response :=
  (answer.1.map wrap, answer.2)

/-- Sends a request to its endpoint. -/
def execute (backend : Backend σ) (state : σ) : Request → Answer σ Response
  | .options request => respond .options (backend.options state request)
  | .aggregated request => respond .aggregated (backend.aggregated state request)
  | .timeseries request => respond .timeseries (backend.timeseries state request)
  | .metrics request => respond .metrics (backend.metrics state request)

/-- Sends requests one after the other. -/
def executeAll (backend : Backend σ) (state : σ) :
    List Request → List (Except FetchFailure Response) × σ
  | [] => ([], state)
  | request :: requests =>
    let (result, state) := backend.execute state request
    let (results, state) := executeAll backend state requests
    (result :: results, state)

/-- Fails the requests for which a fault is given, before they reach the backend. -/
def withFaults (backend : Backend σ) (fault : Request → Option FetchFailure) : Backend σ :=
  let guarded {α β : Type} (wrap : α → Request) (answer : σ → α → Answer σ β) (state : σ)
      (request : α) : Answer σ β :=
    match fault (wrap request) with
    | some failure => (.error failure, state)
    | none => answer state request
  ⟨guarded .options backend.options, guarded .aggregated backend.aggregated,
    guarded .timeseries backend.timeseries, guarded .metrics backend.metrics⟩

/-- Keeps a list of all requests beside the state of a backend, the last one first. -/
def recorded (backend : Backend σ) : Backend (List Request × σ) :=
  let noted {α β : Type} (wrap : α → Request) (answer : σ → α → Answer σ β)
      (state : List Request × σ) (request : α) : Answer (List Request × σ) β :=
    let (result, inner) := answer state.2 request
    (result, wrap request :: state.1, inner)
  ⟨noted .options backend.options, noted .aggregated backend.aggregated,
    noted .timeseries backend.timeseries, noted .metrics backend.metrics⟩

end Backend

/-- Prepared answers, one for each endpoint; those for candidates go by the name of a dimension. -/
structure Fixtures where
  options : List (String × Candidates)
  aggregated : Option AggregatedResponse
  timeseries : Option TimeseriesResponse
  metrics : Option MetricsResponse
  deriving DecidableEq, Repr

namespace Fixtures

/-- No answer is prepared. -/
def none : Fixtures :=
  ⟨[], Option.none, Option.none, Option.none⟩

/-- The name of the candidates that serve every dimension without its own. -/
def defaultName : String := "default"

/-- The prepared candidates for a dimension. -/
def candidatesFor (fixtures : Fixtures) (target : Dimension) : Option Candidates :=
  (fixtures.options.lookup target.name).or (fixtures.options.lookup defaultName)

/-- Answers with what is prepared, and notes that the endpoint was called. -/
def answer {α : Type} (endpoint : Endpoint) (prepared : Option α) (calls : List Endpoint) :
    Answer (List Endpoint) α :=
  let result := match prepared with
    | some response => .ok response
    | Option.none => .error (.status 404 s!"no fixture for {endpoint.path}")
  (result, calls ++ [endpoint])

/-- The backend that gives the prepared answers; its state is the list of calls so far. -/
def backend (fixtures : Fixtures) : Backend (List Endpoint) where
  options calls request := answer .options (fixtures.candidatesFor request.target) calls
  aggregated calls _ := answer .aggregated fixtures.aggregated calls
  timeseries calls _ := answer .timeseries fixtures.timeseries calls
  metrics calls _ := answer .metrics fixtures.metrics calls

end Fixtures

end Viewpoint
