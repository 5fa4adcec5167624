import Viewpoint.Number.Shortest
import Viewpoint.Query.Backend
import Viewpoint.Wire.Filters
import Viewpoint.Wire.TimeRange

/-! Responses and prepared answers in JSON. -/

namespace Viewpoint

/-- The JSON of a number of 64 bits. -/
def Binary64.toJson (x : Binary64) : Json :=
  .number x.numeral

namespace AggregatedPoint

/-- The JSON of the value of a group. -/
def toJson (point : AggregatedPoint) : Json :=
  .record [("dimension", .text point.group), ("value", point.value.toJson),
    ("count", .nat point.count)]

/-- Decodes the value of a group. -/
def ofJson (value : Json) : Decoded AggregatedPoint := do
  let known ← Decode.fields ["dimension", "value", "count"] 3 value
  let group ← Decode.required known "dimension" Decode.text
  let value ← Decode.required known "value" Decode.binary64
  let count ← Decode.required known "count" Decode.nat
  return { group, value, count }

end AggregatedPoint

namespace AggregatedResponse

/-- The JSON of values reduced over groups. -/
def toJson (response : AggregatedResponse) : Json :=
  .record [("data", .list AggregatedPoint.toJson response.points),
    ("group_by", .named response.groupBy), ("metric", .text response.metric),
    ("aggregation", .named response.aggregation)]

/-- Decodes values reduced over groups. -/
def ofJson (value : Json) : Decoded AggregatedResponse := do
  let known ← Decode.fields ["data", "group_by", "metric", "aggregation"] 4 value
  let points ← Decode.required known "data" (Decode.list AggregatedPoint.ofJson)
  let groupBy ← Decode.required known "group_by" (Decode.name false)
  let metric ← Decode.required known "metric" Decode.text
  let aggregation ← Decode.required known "aggregation" (Decode.name false)
  return { points, groupBy, metric, aggregation }

end AggregatedResponse

namespace TimeseriesPoint

/-- The JSON of the value of a bucket. -/
def toJson (point : TimeseriesPoint) : Json :=
  .record [("timestamp", point.time.toJson), ("value", point.value.toJson),
    ("min", .orNull Binary64.toJson point.min), ("max", .orNull Binary64.toJson point.max),
    ("count", .orNull .nat point.count)]

/-- Decodes the value of a bucket. -/
def ofJson (value : Json) : Decoded TimeseriesPoint := do
  let known ← Decode.fields ["timestamp", "value", "min", "max", "count"] 2 value
  let time ← Decode.required known "timestamp" LocalTime.ofJson
  let value ← Decode.required known "value" Decode.binary64
  let min ← Decode.optionalField known "min" Decode.binary64
  let max ← Decode.optionalField known "max" Decode.binary64
  let count ← Decode.optionalField known "count" Decode.nat
  return { time, value, min, max, count }

end TimeseriesPoint

namespace TimeseriesResponse

/-- The JSON of values over time. -/
def toJson (response : TimeseriesResponse) : Json :=
  .record [("data", .list TimeseriesPoint.toJson response.points),
    ("interval", .named response.interval), ("metric", .text response.metric)]

/-- Decodes values over time. -/
def ofJson (value : Json) : Decoded TimeseriesResponse := do
  let known ← Decode.fields ["data", "interval", "metric"] 3 value
  let points ← Decode.required known "data" (Decode.list TimeseriesPoint.ofJson)
  let interval ← Decode.required known "interval" (Decode.name false)
  let metric ← Decode.required known "metric" Decode.text
  return { points, interval, metric }

end TimeseriesResponse

namespace MetricRecord

/-- The JSON of a record. -/
def toJson (record : MetricRecord) : Json :=
  .record [("id", .int record.id), ("timestamp", record.time.toJson),
    ("service", .text record.service), ("endpoint", .text record.endpoint),
    ("region", .text record.region), ("environment", .text record.environment),
    ("metric_name", .text record.metric), ("value", record.value.toJson),
    ("status", .text record.status)]

/-- The names of the fields of a record. -/
def fieldNames : List String :=
  ["id", "timestamp", "service", "endpoint", "region", "environment", "metric_name", "value",
    "status"]

/-- Decodes a record. -/
def ofJson (value : Json) : Decoded MetricRecord := do
  let known ← Decode.fields fieldNames 9 value
  let id ← Decode.required known "id" Decode.int
  let time ← Decode.required known "timestamp" LocalTime.ofJson
  let service ← Decode.required known "service" Decode.text
  let endpoint ← Decode.required known "endpoint" Decode.text
  let region ← Decode.required known "region" Decode.text
  let environment ← Decode.required known "environment" Decode.text
  let metric ← Decode.required known "metric_name" Decode.text
  let value ← Decode.required known "value" Decode.binary64
  let status ← Decode.required known "status" Decode.text
  return { id, time, service, endpoint, region, environment, metric, value, status }

end MetricRecord

namespace RecordWindow

/-- The JSON of the part of time that records were taken from. -/
def toJson (window : RecordWindow) : Json :=
  .record [("start", window.start.toJson), ("end", window.finish.toJson)]

/-- Decodes the part of time that records were taken from. -/
def ofJson (value : Json) : Decoded RecordWindow := do
  let known ← Decode.fields ["start", "end"] 2 value
  let start ← Decode.required known "start" LocalTime.ofJson
  let finish ← Decode.required known "end" LocalTime.ofJson
  return { start, finish }

end RecordWindow

namespace MetricsResponse

/-- The JSON of single records. -/
def toJson (response : MetricsResponse) : Json :=
  .record [("metrics", .list MetricRecord.toJson response.records), ("count", .nat response.count),
    ("time_range", response.window.toJson)]

/-- Decodes single records. -/
def ofJson (value : Json) : Decoded MetricsResponse := do
  let known ← Decode.fields ["metrics", "count", "time_range"] 3 value
  let records ← Decode.required known "metrics" (Decode.list MetricRecord.ofJson)
  let count ← Decode.required known "count" Decode.nat
  let window ← Decode.required known "time_range" RecordWindow.ofJson
  return { records, count, window }

end MetricsResponse

/-- The JSON of what a response carries. -/
def Response.dataToJson : Response → Json
  | options candidates => candidates.toJson
  | aggregated response => response.toJson
  | timeseries response => response.toJson
  | metrics response => response.toJson

/-- The JSON of a response, with the endpoint that it comes from. -/
def Response.toJson (response : Response) : Json :=
  .record [("endpoint", .named response.endpoint), ("data", response.dataToJson)]

namespace Fixtures

/-- Decodes prepared candidates from the members of an object; of equal names the last counts. -/
def optionsOfMembers : List (Option String × Json) → Decoded (List (String × Candidates))
  | [] => .ok []
  | (key, value) :: members => do
    let name ← Decode.found key
    let candidates ← Candidates.ofJson value
    let rest ← optionsOfMembers members
    return if (rest.lookup name).isSome then rest else (name, candidates) :: rest

/-- Decodes prepared candidates. -/
def optionsOfJson : Json → Decoded (List (String × Candidates))
  | .object members => optionsOfMembers members
  | _ => .error .unexpected

/-- Decodes prepared answers. -/
def ofJson (value : Json) : Decoded Fixtures := do
  let known ← Decode.fields ["options", "aggregated", "timeseries", "metrics"] 0 value
  let options ← Decode.fieldOr known "options" [] optionsOfJson
  let aggregated ← Decode.optionalField known "aggregated" AggregatedResponse.ofJson
  let timeseries ← Decode.optionalField known "timeseries" TimeseriesResponse.ofJson
  let metrics ← Decode.optionalField known "metrics" MetricsResponse.ofJson
  return { options, aggregated, timeseries, metrics }

end Fixtures

end Viewpoint
