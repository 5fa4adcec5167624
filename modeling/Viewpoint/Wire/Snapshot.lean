import Viewpoint.Snapshot
import Viewpoint.Wire.Filters
import Viewpoint.Wire.TimeRange

/-! Snapshots in JSON, with their drill-down trails and the hierarchies behind them. -/

namespace Viewpoint

namespace Crumb

/-- The JSON of a step. -/
def toJson (crumb : Crumb) : Json :=
  .record [("dimension", .named crumb.dimension), ("value", .text crumb.value),
    ("level", .nat crumb.level)]

/-- Decodes a step. -/
def ofJson (value : Json) : Decoded Crumb := do
  let known ← Decode.fields ["dimension", "value", "level"] 3 value
  let dimension ← Decode.required known "dimension" (Decode.name false)
  let value ← Decode.required known "value" Decode.text
  let level ← Decode.required known "level" Decode.nat
  return { dimension, value, level }

end Crumb

/-- The JSON of a trail; its context has only the dimensions with a value. -/
def Trail.toJson (trail : Trail) : Json :=
  .record [("level", .nat trail.level),
    ("context", .record (Dimension.all.flatMap fun d =>
      Json.present d.name .text (trail.context.get d))),
    ("breadcrumbs", .list Crumb.toJson trail.crumbs)]

/-- The JSON of a hierarchy. -/
def Hierarchy.toJson (hierarchy : Hierarchy) : Json :=
  .list .named hierarchy.levels

/-- Decodes a hierarchy. -/
def Hierarchy.ofJson (value : Json) : Decoded Hierarchy :=
  (Decode.list (Decode.name false) value).map .mk

/-- The JSON of a snapshot. -/
def Snapshot.toJson (snapshot : Snapshot) : Json :=
  .record [("revision", .nat snapshot.revision), ("time_range", snapshot.range.toJson),
    ("filters", snapshot.filters.toJson), ("drilldown", snapshot.trail.toJson),
    ("zoom", snapshot.zoom.toJson)]

end Viewpoint
