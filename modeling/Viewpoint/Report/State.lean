import Viewpoint.Dashboard
import Viewpoint.Report.Basic
import Viewpoint.Wire.Request

/-! The report of the state of a dashboard. -/

namespace Viewpoint

/-- A dimension with its filter, and the value that is shown for it. -/
structure FilterRow where
  dimension : Dimension
  value : Option String
  shown : Option String
  deriving DecidableEq, Repr

/-- A widget with its description, its status and the fingerprint of its key. -/
structure WidgetRow where
  id : String
  description : String
  status : String
  key : Option String
  deriving DecidableEq, Repr

/-- The state of a dashboard. -/
structure StateReport where
  revision : Nat
  start : Instant
  finish : Instant
  preset : String
  filters : List FilterRow
  crumbs : List String
  zoom : Zoom
  widgets : List WidgetRow
  deriving DecidableEq, Repr

namespace StateReport

/-- The row of a widget. -/
def widgetRow (id : String) (slot : Slot) : WidgetRow where
  id := id
  description := slot.widget.description
  status := slot.tracker.status.shown
  key := slot.tracker.current.map QueryKey.fingerprint

/-- Reports the state of a dashboard. -/
def capture (dashboard : Dashboard) : StateReport :=
  let snapshot := dashboard.snapshot
  { revision := snapshot.revision
    start := snapshot.range.start
    finish := snapshot.range.finish
    preset := snapshot.range.label
    filters := snapshot.filters.entries.map fun (d, value) => ⟨d, value, dashboard.displayValue d⟩
    crumbs := snapshot.trail.labels.map (·.1)
    zoom := snapshot.zoom
    widgets := dashboard.slots.map fun (id, slot) => widgetRow id slot }

/-- An instant in a table. -/
def timeCell (t : Instant) : String :=
  t.written .table

/-- A bound of the zoom in a table. -/
def boundCell (bound : Option Instant) : String :=
  Report.orDash (bound.map timeCell)

/-- The columns of the table of filters. -/
def filterColumns : List Column :=
  [⟨.left, 12⟩, ⟨.left, 24⟩, ⟨.left, 24⟩]

/-- The line of a filter. -/
def filterLine (row : FilterRow) : String :=
  tableRow filterColumns [row.dimension.name, clip 24 (Report.orDash row.value),
    clip 24 (Report.orDash row.shown)]

/-- The columns of the table of widgets. -/
def widgetColumns : List Column :=
  [⟨.left, 20⟩, ⟨.left, 28⟩, ⟨.left, 10⟩, ⟨.left, 20⟩]

/-- The line of a widget. -/
def widgetLine (row : WidgetRow) : String :=
  tableRow widgetColumns [clip 20 row.id, clip 28 row.description, clip 10 row.status,
    clip 20 (Report.orDash row.key)]

/-- The table of widgets, which is left out when there are none. -/
def widgetLines (rows : List WidgetRow) : List String :=
  if rows.isEmpty then []
  else
    ["", tableRow widgetColumns ["WIDGET", "KIND", "STATUS", "KEY"], ruler '─' 84]
      ++ rows.map widgetLine

/-- The lines of the report of a state. -/
def lines (report : StateReport) : List String :=
  [s!"Query Context (revision {report.revision})", Report.titleRuler,
    s!"Time Range:  {report.preset} ({timeCell report.start})",
    s!"             to {timeCell report.finish}",
    s!"Zoom:        {boundCell report.zoom.min} .. {boundCell report.zoom.max}",
    "Drill-down:  " ++ " > ".intercalate report.crumbs,
    "",
    tableRow filterColumns ["DIMENSION", "VALUE", "SHOWN"],
    ruler '─' 64]
    ++ report.filters.map filterLine ++ widgetLines report.widgets

/-- The JSON of the row of a filter. -/
def filterToJson (row : FilterRow) : Json :=
  .record [("dimension", .named row.dimension), ("value", .orNull .text row.value),
    ("shown", .orNull .text row.shown)]

/-- The JSON of the row of a widget. -/
def widgetToJson (row : WidgetRow) : Json :=
  .record [("id", .text row.id), ("kind", .text row.description), ("status", .text row.status),
    ("key", .orNull .text row.key)]

/-- The JSON of the report of a state. -/
def toJson (report : StateReport) : Json :=
  .record [("revision", .nat report.revision), ("start", report.start.toJson),
    ("end", report.finish.toJson), ("preset", .text report.preset),
    ("filters", .list filterToJson report.filters),
    ("breadcrumbs", .list .text report.crumbs),
    ("zoom_min", .orNull Instant.toJson report.zoom.min),
    ("zoom_max", .orNull Instant.toJson report.zoom.max),
    ("widgets", .list widgetToJson report.widgets)]

instance : Report StateReport where
  lines := lines
  toJson := toJson

end StateReport

end Viewpoint
