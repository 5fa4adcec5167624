import Viewpoint.TimeRange
import Viewpoint.Trail
import Viewpoint.Zoom

/-! The configuration of a dashboard, and what makes it valid. -/

namespace Viewpoint

/-- The settings of a dashboard. -/
structure Config where
  presets : List Preset
  defaultPreset : PresetId
  mandatoryDefaults : List Dimension
  drillPolicy : DrillPolicy
  brushPolicy : BrushPolicy
  hierarchy : Hierarchy
  maxRefreshRounds : Nat
  deriving DecidableEq, Repr

namespace Config

/-- The settings that are used where nothing else is given. -/
def standard : Config where
  presets := Preset.standards
  defaultPreset := .last24Hours
  mandatoryDefaults := [.metricName]
  drillPolicy := .sticky
  brushPolicy := .localOnly
  hierarchy := .standard
  maxRefreshRounds := 4

/-- The first element of a list that stands in the list already, seen from the front. -/
def firstRepeated? {α : Type} [BEq α] (before : List α) : List α → Option α
  | [] => none
  | x :: rest => if before.contains x then some x else firstRepeated? (before ++ [x]) rest

/-- The first fault of a table of presets: a width that cannot be used, or a name given twice. -/
def presetFault? (before : List PresetId) : List Preset → Option ConfigFault
  | [] => none
  | preset :: rest =>
    if !preset.isUsable then some (.unusableWidth preset)
    else if before.contains preset.id then some (.repeatedPreset preset.id)
    else presetFault? (before ++ [preset.id]) rest

/-- The first fault of a hierarchy. -/
def hierarchyFault? (hierarchy : Hierarchy) : Option ConfigFault :=
  if hierarchy.levels.isEmpty then some .emptyHierarchy
  else (firstRepeated? [] hierarchy.levels).map .repeatedLevel

/-- The first fault of a configuration. -/
def fault? (config : Config) : Option ConfigFault :=
  (presetFault? [] config.presets)
    |>.or (if config.presets.any fun preset => preset.id == config.defaultPreset then none
      else some (.unknownDefault config.defaultPreset))
    |>.or (hierarchyFault? config.hierarchy)
    |>.or (if config.maxRefreshRounds = 0 then some .noRounds else none)

/-- Refuses a configuration that has a fault. -/
def validate (config : Config) : Except Rejection Unit :=
  match config.fault? with
  | some fault => .error (.invalidConfig fault)
  | none => .ok ()

end Config

end Viewpoint
