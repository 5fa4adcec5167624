import Viewpoint.Candidates
import Viewpoint.Preset
import Viewpoint.Time.Instant

/-! Events: what users do to a dashboard, and what arrives for it. -/

namespace Viewpoint

/-- Something that changes a dashboard. -/
inductive Event where
  | setTimeRange (start finish : Instant)
  | applyPreset (id : PresetId)
  | setFilter (d : Dimension) (value : Option String)
  | clearFilter (d : Dimension)
  | clearAllFilters
  | drillDown (d : Dimension) (value : String)
  | drillNext (value : String)
  | drillUp (level : Nat)
  | resetDrill
  | setZoom (min max : Option Instant)
  | clearZoom
  | brush (min max : Option Instant)
  | applyBrush
  | clearBrush
  | optionsLoaded (candidates : Candidates)
  deriving DecidableEq, Repr

/-- The name of an event. -/
def Event.name : Event → String
  | setTimeRange _ _ => "set_time_range"
  | applyPreset _ => "apply_preset"
  | setFilter _ _ => "set_filter"
  | clearFilter _ => "clear_filter"
  | clearAllFilters => "clear_all_filters"
  | drillDown _ _ => "drill_down"
  | drillNext _ => "drill_next"
  | drillUp _ => "drill_up"
  | resetDrill => "reset_drilldown"
  | setZoom _ _ => "set_zoom"
  | clearZoom => "clear_zoom"
  | brush _ _ => "brush"
  | applyBrush => "apply_brush"
  | clearBrush => "clear_brush"
  | optionsLoaded _ => "options_loaded"

end Viewpoint
