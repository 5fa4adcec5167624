import Viewpoint.Time.Reader
import Viewpoint.TimeRange
import Viewpoint.Wire.Decode
import Viewpoint.Zoom

/-! Times, time ranges and zooms in JSON. -/

namespace Viewpoint

/-- The JSON of an instant. -/
def Instant.toJson (t : Instant) : Json :=
  .text (t.written .wire)

/-- Decodes an instant. -/
def Instant.ofJson (value : Json) : Decoded Instant :=
  (Decode.text value).bind fun content => Decode.found (Instant.read? content.toList)

/-- The JSON of a clock reading. -/
def LocalTime.toJson (t : LocalTime) : Json :=
  .text (t.instant.written .zoneless)

/-- Decodes a clock reading. -/
def LocalTime.ofJson (value : Json) : Decoded LocalTime :=
  (Decode.text value).bind fun content => Decode.found (LocalTime.read? content.toList)

namespace TimeRange

/-- The JSON of a time range. -/
def toJson (range : TimeRange) : Json :=
  .record [("start", range.start.toJson), ("end", range.finish.toJson),
    ("preset", .text range.label)]

/-- Decodes the label of a time range as the preset that it names, if any. -/
def presetOfJson : Json → Decoded (Option PresetId)
  | .null => .ok none
  | .string (some label) =>
    if label = customLabel then .ok none else (Decode.accepted (PresetId.ofName label)).map some
  | _ => .error .unexpected

/-- Refuses a field that cannot be decoded. -/
def screen (name : String) (value : Json) : Decoded Unit :=
  if name = "preset" then (presetOfJson value).map fun _ => ()
  else (Instant.ofJson value).map fun _ => ()

/-- Decodes a time range, whose fields are checked in the order in which they are written. -/
def ofJson (value : Json) : Decoded TimeRange := do
  let known ← Decode.screenedFields ["start", "end", "preset"] 2 screen value
  let start ← Decode.required known "start" Instant.ofJson
  let finish ← Decode.required known "end" Instant.ofJson
  let preset ← Decode.fieldOr known "preset" none presetOfJson
  let range ← Decode.accepted (between start finish)
  return { range with preset }

end TimeRange

namespace Zoom

/-- The JSON of a zoom. -/
def toJson (zoom : Zoom) : Json :=
  .record [("min", .orNull Instant.toJson zoom.min), ("max", .orNull Instant.toJson zoom.max)]

/-- Decodes a zoom. -/
def ofJson (value : Json) : Decoded Zoom := do
  let known ← Decode.fields ["min", "max"] 0 value
  let min ← Decode.optionalField known "min" Instant.ofJson
  let max ← Decode.optionalField known "max" Instant.ofJson
  Decode.accepted (within min max)

end Zoom

end Viewpoint
