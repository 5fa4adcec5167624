import Viewpoint.Query.Key
import Viewpoint.Query.Request

/-! Widgets: what they show, what they depend on, and what they ask for. -/

namespace Viewpoint

/-- What a widget shows. -/
inductive Widget where
  | aggregated (groupBy : Dimension) (aggregation : Aggregation)
  | timeseries (interval : Option Interval)
  | metrics
  | options (d : Dimension)
  deriving DecidableEq, Repr

namespace Widget

/-- Refuses a widget that groups by a dimension that cannot be grouped by. -/
def validate : Widget → Except Rejection Unit
  | aggregated groupBy _ =>
    if groupBy.isGroupable then .ok () else .error (.unsupportedGroupBy groupBy)
  | _ => .ok ()

/-- The parts of a snapshot that a widget depends on. -/
def deps : Widget → Deps
  | aggregated _ _ => .chart
  | timeseries _ => .timeSeries
  | metrics => .chart
  | options d => .candidatesOf d

/-- The dimension whose candidates a widget loads. -/
def optionsDimension : Widget → Option Dimension
  | options d => some d
  | _ => none

/-- The request of a widget at a snapshot. -/
def request (widget : Widget) (snapshot : Snapshot) : Request :=
  match widget with
  | aggregated groupBy aggregation => .aggregated (.ofSnapshot snapshot groupBy aggregation)
  | timeseries interval => .timeseries (.ofSnapshot snapshot interval)
  | metrics => .metrics (.ofSnapshot snapshot)
  | options d => .options (.ofSnapshot snapshot d)

/-- The key of a widget at a snapshot. -/
def key (widget : Widget) (snapshot : Snapshot) : QueryKey :=
  .derive snapshot widget.deps

/-- A description of a widget for tables. -/
def description : Widget → String
  | aggregated groupBy aggregation => s!"aggregated({groupBy.name}, {aggregation.name})"
  | timeseries (some interval) => s!"timeseries({interval.name})"
  | timeseries none => "timeseries(auto)"
  | metrics => "metrics"
  | options d => s!"options({d.name})"

end Widget

end Viewpoint
