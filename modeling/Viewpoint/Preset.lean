import Viewpoint.Named

/-! Presets: named widths of a time range that ends now. -/

namespace Viewpoint

/-- The name under which a preset can be chosen. -/
inductive PresetId where
  | last15Minutes
  | lastHour
  | last6Hours
  | last24Hours
  | last7Days
  deriving DecidableEq, Repr

namespace PresetId

/-- All preset names, from the shortest to the longest. -/
def all : List PresetId :=
  [last15Minutes, lastHour, last6Hours, last24Hours, last7Days]

/-- The name of a preset in requests and files. -/
def name : PresetId → String
  | last15Minutes => "last_15m"
  | lastHour => "last_1h"
  | last6Hours => "last_6h"
  | last24Hours => "last_24h"
  | last7Days => "last_7d"

/-- The name of a preset for people. -/
def label : PresetId → String
  | last15Minutes => "Last 15 minutes"
  | lastHour => "Last hour"
  | last6Hours => "Last 6 hours"
  | last24Hours => "Last 24 hours"
  | last7Days => "Last 7 days"

/-- The width that a preset has unless it is configured otherwise. -/
def standardSeconds : PresetId → Nat
  | last15Minutes => 15 * 60
  | lastHour => 60 * 60
  | last6Hours => 6 * 60 * 60
  | last24Hours => 24 * 60 * 60
  | last7Days => 7 * 24 * 60 * 60

instance : Named PresetId where
  all := all
  name := name
  find_name p := by cases p <;> rfl

end PresetId

/-- A preset with its width in seconds. -/
structure Preset where
  id : PresetId
  seconds : Nat
  deriving DecidableEq, Repr

namespace Preset

/-- The preset of a name with its standard width. -/
def standard (id : PresetId) : Preset :=
  ⟨id, id.standardSeconds⟩

/-- All presets with their standard widths. -/
def standards : List Preset :=
  PresetId.all.map standard

/-- The greatest number of seconds that a span may have: its milliseconds fit into 63 bits. -/
def greatestSpan : Nat := 9223372036854775

/-- The width of a preset can be used when it is positive and not too great for a span. -/
def isUsable (preset : Preset) : Bool :=
  0 < preset.seconds && preset.seconds ≤ greatestSpan

end Preset

end Viewpoint
