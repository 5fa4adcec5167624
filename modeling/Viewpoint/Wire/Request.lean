import Viewpoint.Hash.Blake3
import Viewpoint.Json.Writer
import Viewpoint.Query.Key
import Viewpoint.Query.Request
import Viewpoint.Wire.Snapshot

/-! What widgets ask for, in JSON: dependencies, keys with their fingerprints, and requests. -/

namespace Viewpoint

namespace FilterScope

/-- The JSON of a scope. -/
def toJson : FilterScope → Json
  | none => .text "none"
  | all => .text "all"
  | excluding d => .record [("excluding", .named d)]

/-- The scope of a name that needs nothing else. -/
def ofName (name : String) : Decoded FilterScope :=
  if name = "none" then .ok none
  else if name = "all" then .ok all
  else .error .unexpected

/-- Decodes a scope. -/
def ofJson : Json → Decoded FilterScope
  | .string (some name) => ofName name
  | .object [(some key, value)] =>
    if key = "excluding" then (Decode.name false value).map excluding
    else match value with
      | .null => ofName key
      | _ => .error .unexpected
  | _ => .error .unexpected

end FilterScope

namespace Deps

/-- The JSON of dependencies. -/
def toJson (deps : Deps) : Json :=
  .record [("time_range", .bool deps.timeRange), ("filters", deps.filters.toJson),
    ("drilldown", .bool deps.trail), ("zoom", .bool deps.zoom)]

/-- Decodes dependencies. -/
def ofJson (value : Json) : Decoded Deps := do
  let known ← Decode.fields ["time_range", "filters", "drilldown", "zoom"] 4 value
  let timeRange ← Decode.required known "time_range" Decode.bool
  let filters ← Decode.required known "filters" FilterScope.ofJson
  let trail ← Decode.required known "drilldown" Decode.bool
  let zoom ← Decode.required known "zoom" Decode.bool
  return { timeRange, filters, trail, zoom }

end Deps

/-- The JSON of dimensions with their values, each as a pair. -/
def pairsToJson (filters : List (Dimension × String)) : Json :=
  .list (fun (d, value) => .array [.named d, .text value]) filters

namespace QueryKey

/-- The JSON of a key; parts that the query does not depend on are left out. -/
def toJson (key : QueryKey) : Json :=
  .record (Json.present "time_range" (fun (start, finish) =>
      .array [Instant.toJson start, Instant.toJson finish]) key.bounds
    ++ [("filters", pairsToJson key.filters)]
    ++ Json.present "drilldown" (.list Crumb.toJson) key.crumbs
    ++ Json.present "zoom" Zoom.toJson key.zoom)

/-- The one text that stands for a key. -/
def canonical (key : QueryKey) : String :=
  key.toJson.compact

end QueryKey

/-- Every fingerprint starts with this. -/
def fingerprintStart : String := "pulse:query:"

/-- The fingerprint of a key: the hash of the bytes of its canonical text. -/
def QueryKey.fingerprint (key : QueryKey) : String :=
  fingerprintStart ++ Blake3.hexDigest key.canonical.toUTF8.toList

namespace Request

/-- The fields of a request besides its endpoint. -/
def fieldsToJson : Request → List (String × Json)
  | options request =>
    [("target", .named request.target), ("filters", pairsToJson request.filters)]
  | aggregated request =>
    [("start_time", request.start.toJson), ("end_time", request.finish.toJson),
      ("group_by", .named request.groupBy), ("metric_name", .orNull .text request.metric),
      ("aggregation", .named request.aggregation), ("filters", pairsToJson request.filters)]
  | timeseries request =>
    [("start_time", request.start.toJson), ("end_time", request.finish.toJson),
      ("metric_name", .orNull .text request.metric), ("interval", .named request.interval),
      ("zoom_min", .orNull Instant.toJson request.zoomMin),
      ("zoom_max", .orNull Instant.toJson request.zoomMax),
      ("filters", pairsToJson request.filters)]
  | metrics request =>
    [("start_time", request.start.toJson), ("end_time", request.finish.toJson),
      ("filters", pairsToJson request.filters)]

/-- The JSON of a request. -/
def toJson (request : Request) : Json :=
  .record (("endpoint", .named request.endpoint) :: request.fieldsToJson)

end Request

end Viewpoint
