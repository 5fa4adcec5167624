import Viewpoint.Dimension
import Viewpoint.Preset
import Viewpoint.Time.Writer

/-! Why a dashboard refuses an event, a setting or a value. -/

namespace Viewpoint

/-- What is wrong with a configuration. -/
inductive ConfigFault where
  | unusableWidth (preset : Preset)
  | repeatedPreset (id : PresetId)
  | unknownDefault (id : PresetId)
  | emptyHierarchy
  | repeatedLevel (d : Dimension)
  | noRounds
  deriving DecidableEq, Repr

/-- The wording of a fault of a configuration. -/
def ConfigFault.message : ConfigFault → String
  | unusableWidth preset =>
    s!"preset {preset.id.name} has unusable duration {preset.seconds}s"
  | repeatedPreset id => s!"preset {id.name} listed twice"
  | unknownDefault id => s!"default preset {id.name} is not in the preset table"
  | emptyHierarchy => "drill hierarchy is empty"
  | repeatedLevel d => s!"drill hierarchy repeats dimension {d.name}"
  | noRounds => "max_refresh_rounds must be at least 1"

/-- Why something asked of a dashboard is refused. -/
inductive Rejection where
  | unknownPreset (label : String)
  | unknownDimension (name : String)
  | invalidTimeRange (start finish : Instant)
  | invalidZoom (min max : Instant)
  | invalidDrillLevel (requested current : Nat)
  | emptyDrillValue (d : Dimension)
  | drillDepthExceeded (level : Nat)
  | unsupportedGroupBy (d : Dimension)
  | unknownWidget (id : String)
  | duplicateWidget (id : String)
  | invalidConfig (fault : ConfigFault)
  deriving DecidableEq, Repr

/-- The wording of a rejection. -/
def Rejection.message : Rejection → String
  | unknownPreset label => s!"unknown preset: {label}"
  | unknownDimension name => s!"unknown dimension: {name}"
  | invalidTimeRange start finish =>
    s!"invalid time range: start={start.written .message}, end={finish.written .message}"
  | invalidZoom min max =>
    s!"invalid zoom range: min={min.written .message}, max={max.written .message}"
  | invalidDrillLevel requested current =>
    s!"cannot drill up to level {requested}: current level is {current}"
  | emptyDrillValue d => s!"empty drill-down value for dimension {d.name}"
  | drillDepthExceeded level => s!"drill-down hierarchy exhausted at level {level}"
  | unsupportedGroupBy d => s!"cannot group by dimension: {d.name}"
  | unknownWidget id => s!"unknown widget: {id}"
  | duplicateWidget id => s!"widget already registered: {id}"
  | invalidConfig fault => s!"invalid configuration: {fault.message}"

/-- The dimension of a name. -/
def Dimension.ofName (name : String) : Except Rejection Dimension :=
  match (Named.find? name : Option Dimension) with
  | some d => .ok d
  | none => .error (.unknownDimension name)

/-- The preset of a name. -/
def PresetId.ofName (name : String) : Except Rejection PresetId :=
  match (Named.find? name : Option PresetId) with
  | some id => .ok id
  | none => .error (.unknownPreset name)

end Viewpoint
