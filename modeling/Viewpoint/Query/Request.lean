import Viewpoint.Snapshot

/-! Requests to the service that holds the data, and the query strings that carry them. -/

namespace Viewpoint

/-- The resources that the service offers. -/
inductive Endpoint where
  | options
  | aggregated
  | timeseries
  | metrics
  deriving DecidableEq, Repr

namespace Endpoint

/-- The name of an endpoint. -/
def name : Endpoint → String
  | options => "options"
  | aggregated => "aggregated"
  | timeseries => "timeseries"
  | metrics => "metrics"

/-- The path of an endpoint. -/
def path : Endpoint → String
  | options => "/filters/available"
  | aggregated => "/dashboard/aggregated"
  | timeseries => "/dashboard/timeseries"
  | metrics => "/dashboard/metrics"

instance : Named Endpoint where
  all := [options, aggregated, timeseries, metrics]
  name := name
  find_name e := by cases e <;> rfl

end Endpoint

/-- The names and values of a query string. -/
abbrev QueryPairs := List (String × String)

/-- The pairs of an optional value: one, or none if it is missing. -/
def optionalPair {α : Type} (name : String) (text : α → String) (value : Option α) : QueryPairs :=
  (value.map fun v => (name, text v)).toList

/-- The pairs of filters. -/
def filterPairs (filters : List (Dimension × String)) : QueryPairs :=
  filters.map fun (d, value) => (d.name, value)

/-- An instant in a query string: whole seconds only. -/
def queryTime (t : Instant) : String :=
  t.truncated.written .wire

/-- Asks for the candidates of a dimension under the filters of the others. -/
structure OptionsRequest where
  target : Dimension
  filters : List (Dimension × String)
  deriving DecidableEq, Repr

/-- Asks for values reduced over the groups of a dimension. -/
structure AggregatedRequest where
  start : Instant
  finish : Instant
  groupBy : Dimension
  metric : Option String
  aggregation : Aggregation
  filters : List (Dimension × String)
  deriving DecidableEq, Repr

/-- Asks for values over time. -/
structure TimeseriesRequest where
  start : Instant
  finish : Instant
  metric : Option String
  interval : Interval
  zoomMin : Option Instant
  zoomMax : Option Instant
  filters : List (Dimension × String)
  deriving DecidableEq, Repr

/-- Asks for single records. -/
structure MetricsRequest where
  start : Instant
  finish : Instant
  filters : List (Dimension × String)
  deriving DecidableEq, Repr

namespace OptionsRequest

/-- The request for the candidates of a dimension at a snapshot. -/
def ofSnapshot (snapshot : Snapshot) (target : Dimension) : OptionsRequest :=
  ⟨target, snapshot.filters.activeExcluding target⟩

/-- The query string of a request for candidates. -/
def pairs (request : OptionsRequest) : QueryPairs :=
  filterPairs request.filters

end OptionsRequest

namespace AggregatedRequest

/-- The request for reduced values at a snapshot; the metric is not one of its filters. -/
def ofSnapshot (snapshot : Snapshot) (groupBy : Dimension) (aggregation : Aggregation) :
    AggregatedRequest where
  start := snapshot.range.start
  finish := snapshot.range.finish
  groupBy := groupBy
  metric := snapshot.filters.get .metricName
  aggregation := aggregation
  filters := snapshot.filters.activeExcluding .metricName

/-- The query string of a request for reduced values. -/
def pairs (request : AggregatedRequest) : QueryPairs :=
  [("start_time", queryTime request.start), ("end_time", queryTime request.finish),
    ("group_by", request.groupBy.name)]
    ++ optionalPair "metric_name" id request.metric
    ++ [("aggregation", request.aggregation.name)]
    ++ filterPairs request.filters

end AggregatedRequest

namespace TimeseriesRequest

/-- The request for values over time at a snapshot; the interval follows the range if not given. -/
def ofSnapshot (snapshot : Snapshot) (interval : Option Interval) : TimeseriesRequest where
  start := snapshot.range.start
  finish := snapshot.range.finish
  metric := snapshot.filters.get .metricName
  interval := interval.getD snapshot.range.suggestedInterval
  zoomMin := snapshot.zoom.min
  zoomMax := snapshot.zoom.max
  filters := snapshot.filters.activeExcluding .metricName

/-- The query string of a request for values over time. -/
def pairs (request : TimeseriesRequest) : QueryPairs :=
  [("start_time", queryTime request.start), ("end_time", queryTime request.finish)]
    ++ optionalPair "metric_name" id request.metric
    ++ [("interval", request.interval.name)]
    ++ optionalPair "zoom_min" queryTime request.zoomMin
    ++ optionalPair "zoom_max" queryTime request.zoomMax
    ++ filterPairs request.filters

end TimeseriesRequest

namespace MetricsRequest

/-- The request for single records at a snapshot. -/
def ofSnapshot (snapshot : Snapshot) : MetricsRequest :=
  ⟨snapshot.range.start, snapshot.range.finish, snapshot.filters.active⟩

/-- The query string of a request for single records. -/
def pairs (request : MetricsRequest) : QueryPairs :=
  [("start_time", queryTime request.start), ("end_time", queryTime request.finish)]
    ++ filterPairs request.filters

end MetricsRequest

/-- A request to one of the endpoints. -/
inductive Request where
  | options (request : OptionsRequest)
  | aggregated (request : AggregatedRequest)
  | timeseries (request : TimeseriesRequest)
  | metrics (request : MetricsRequest)
  deriving DecidableEq, Repr

namespace Request

/-- The endpoint that a request goes to. -/
def endpoint : Request → Endpoint
  | options _ => .options
  | aggregated _ => .aggregated
  | timeseries _ => .timeseries
  | metrics _ => .metrics

/-- The query string of a request. -/
def pairs : Request → QueryPairs
  | options request => request.pairs
  | aggregated request => request.pairs
  | timeseries request => request.pairs
  | metrics request => request.pairs

end Request

end Viewpoint
