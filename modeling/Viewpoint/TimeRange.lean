import Viewpoint.Measure
import Viewpoint.Rejection

/-! The time range of a dashboard, chosen freely or by a preset. -/

namespace Viewpoint

/-- A time range, and the preset that it was resolved from, if any. -/
structure TimeRange where
  start : Instant
  finish : Instant
  preset : Option PresetId
  deriving DecidableEq, Repr

namespace TimeRange

/-- The label of a range that no preset gave. -/
def customLabel : String := "custom"

/-- A range without a preset; it has to start before it ends. -/
def between (start finish : Instant) : Except Rejection TimeRange :=
  if start < finish then .ok ⟨start, finish, none⟩
  else .error (.invalidTimeRange start finish)

/-- The range of a preset that ends at the given instant. -/
def endingAt (id : PresetId) (seconds : Int) (finish : Instant) : Except Rejection TimeRange :=
  -- A preset that reaches back before all instants has no range.
  match finish.addSeconds? (-seconds) with
  | none => .error (.invalidTimeRange finish finish)
  | some start => (between start finish).map fun range => { range with preset := some id }

/-- The range was chosen freely. -/
def isCustom (range : TimeRange) : Bool :=
  range.preset.isNone

/-- The name of the preset of a range, or the label of ranges that have none. -/
def label (range : TimeRange) : String :=
  match range.preset with
  | none => customLabel
  | some id => id.name

/-- The width of a range in nanoseconds. -/
def width (range : TimeRange) : Int :=
  range.finish.nanosSince range.start

/-- An instant lies in a range, whose ends belong to it. -/
def contains (range : TimeRange) (t : Instant) : Bool :=
  range.start ≤ t && t ≤ range.finish

/-- The nanoseconds of a number of hours. -/
def hours (n : Nat) : Int :=
  (n * 3600 * nanosPerSecond : Nat)

/-- The interval that keeps the number of buckets of a range small. -/
def suggestedInterval (range : TimeRange) : Interval :=
  -- The bounds belong to the finer interval.
  if range.width ≤ hours 1 then .oneMinute
  else if range.width ≤ hours 6 then .fiveMinutes
  else if range.width ≤ hours 24 then .fifteenMinutes
  else if range.width ≤ hours (7 * 24) then .oneHour
  else if range.width ≤ hours (30 * 24) then .sixHours
  else .oneDay

end TimeRange

namespace Preset

/-- The width of a preset in seconds, if it can be used. -/
def duration (preset : Preset) : Except Rejection Nat :=
  if preset.isUsable then .ok preset.seconds
  else .error (.invalidConfig (.unusableWidth preset))

/-- The width in seconds that a table gives to the preset of a name. -/
def durationOf (presets : List Preset) (id : PresetId) : Except Rejection Nat :=
  match presets.find? fun preset => preset.id == id with
  | none => .error (.unknownPreset id.name)
  | some preset => preset.duration

/-- The time range that a table gives to the preset of a name at an instant. -/
def resolve (presets : List Preset) (now : Instant) (id : PresetId) : Except Rejection TimeRange :=
  (durationOf presets id).bind fun seconds => TimeRange.endingAt id seconds now

end Preset

end Viewpoint
