import Viewpoint.Report.Basic
import Viewpoint.Wire.Config

/-! The reports of a configuration and of its presets. -/

namespace Viewpoint

namespace Config

/-- The lines of the report of a configuration. -/
def lines (config : Config) : List String :=
  let names (separator : String) (dimensions : List Dimension) :=
    separator.intercalate (dimensions.map Dimension.name)
  ["Configuration", Report.titleRuler,
    "Default Preset:     " ++ config.defaultPreset.name,
    "Presets:            " ++ ", ".intercalate (config.presets.map fun preset => preset.id.name),
    "Mandatory Defaults: " ++ names ", " config.mandatoryDefaults,
    "Drill Hierarchy:    " ++ names " > " config.hierarchy.levels,
    "Drill-up Policy:    " ++ config.drillPolicy.title,
    "Brush Policy:       " ++ config.brushPolicy.title,
    "Refresh Rounds:     " ++ toString config.maxRefreshRounds]

instance : Report Config where
  lines := lines
  toJson := toJson

end Config

/-- A preset with the time range that it has now. -/
structure PresetRow where
  preset : Preset
  start : Instant
  finish : Instant
  isDefault : Bool
  deriving DecidableEq, Repr

/-- The presets of a configuration with their time ranges. -/
structure PresetReport where
  rows : List PresetRow
  deriving DecidableEq, Repr

namespace PresetReport

/-- The row of a preset, found in the table by its name. -/
def row (config : Config) (now : Instant) (preset : Preset) : Except Rejection PresetRow :=
  (Preset.resolve config.presets now preset.id).map fun range =>
    ⟨preset, range.start, range.finish, preset.id == config.defaultPreset⟩

/-- Lists the presets of a configuration as of now. -/
def list (config : Config) (now : Instant) : Except Rejection PresetReport :=
  (config.presets.mapM (row config now)).map .mk

/-- The columns of the table of presets. -/
def columns : List Column :=
  [⟨.left, 10⟩, ⟨.left, 16⟩, ⟨.right, 8⟩, ⟨.left, 25⟩, ⟨.left, 25⟩]

/-- The line of a preset; a star marks the default. -/
def line (row : PresetRow) : String :=
  tableRow columns [row.preset.id.name ++ (if row.isDefault then "*" else ""), row.preset.id.label,
    toString row.preset.seconds, row.start.written .table, row.finish.written .table]

/-- The lines of the report of presets. -/
def lines (report : PresetReport) : List String :=
  if report.rows.isEmpty then ["No presets configured"]
  else
    [tableRow columns ["ID", "LABEL", "SECONDS", "START", "END"], ruler '─' 92]
      ++ report.rows.map line ++ ["", "* default preset"]

/-- The JSON of the row of a preset. -/
def rowToJson (row : PresetRow) : Json :=
  .record [("id", .named row.preset.id), ("label", .text row.preset.id.label),
    ("seconds", .nat row.preset.seconds), ("start", row.start.toJson),
    ("end", row.finish.toJson), ("default", .bool row.isDefault)]

/-- The JSON of the report of presets. -/
def toJson (report : PresetReport) : Json :=
  .record [("presets", .list rowToJson report.rows)]

instance : Report PresetReport where
  lines := lines
  toJson := toJson

end PresetReport

end Viewpoint
