import Viewpoint.Candidates
import Viewpoint.Measure
import Viewpoint.Number.Binary64
import Viewpoint.Query.Request
import Viewpoint.Time.Reader

/-! Responses of the service, and the ways in which it can fail. -/

namespace Viewpoint

/-- The value of one group. -/
structure AggregatedPoint where
  group : String
  value : Binary64
  count : Nat
  deriving DecidableEq, Repr

/-- Values reduced over groups. -/
structure AggregatedResponse where
  points : List AggregatedPoint
  groupBy : Dimension
  metric : String
  aggregation : Aggregation
  deriving DecidableEq, Repr

/-- The value of one bucket of time. -/
structure TimeseriesPoint where
  time : LocalTime
  value : Binary64
  min : Option Binary64
  max : Option Binary64
  count : Option Nat
  deriving DecidableEq, Repr

/-- Values over time. -/
structure TimeseriesResponse where
  points : List TimeseriesPoint
  interval : Interval
  metric : String
  deriving DecidableEq, Repr

/-- One record. -/
structure MetricRecord where
  id : Int
  time : LocalTime
  service : String
  endpoint : String
  region : String
  environment : String
  metric : String
  value : Binary64
  status : String
  deriving DecidableEq, Repr

/-- The part of time that records were taken from. -/
structure RecordWindow where
  start : LocalTime
  finish : LocalTime
  deriving DecidableEq, Repr

/-- Single records. -/
structure MetricsResponse where
  records : List MetricRecord
  count : Nat
  window : RecordWindow
  deriving DecidableEq, Repr

/-- What an endpoint answers. -/
inductive Response where
  | options (candidates : Candidates)
  | aggregated (response : AggregatedResponse)
  | timeseries (response : TimeseriesResponse)
  | metrics (response : MetricsResponse)
  deriving DecidableEq, Repr

/-- The endpoint that a response comes from. -/
def Response.endpoint : Response → Endpoint
  | options _ => .options
  | aggregated _ => .aggregated
  | timeseries _ => .timeseries
  | metrics _ => .metrics

/-- Why a fetch has failed. -/
inductive FetchFailure where
  | request (message : String)
  | status (code : Nat) (message : String)
  | malformed (message : String)
  deriving DecidableEq, Repr

/-- The wording of a failed fetch. -/
def FetchFailure.message : FetchFailure → String
  | request message => s!"request failed: {message}"
  | status code message => s!"backend returned status {code}: {message}"
  | malformed message => s!"malformed response: {message}"

end Viewpoint
