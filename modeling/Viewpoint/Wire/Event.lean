import Viewpoint.Event
import Viewpoint.Wire.Filters
import Viewpoint.Wire.TimeRange

/-! Events in JSON. -/

namespace Viewpoint.Event

/-- The fields of an event besides its type. -/
def fieldsToJson : Event → List (String × Json)
  | setTimeRange start finish => [("start", start.toJson), ("end", finish.toJson)]
  | applyPreset id => [("preset", .named id)]
  | setFilter d value => [("dimension", .named d), ("value", .orNull .text value)]
  | clearFilter d => [("dimension", .named d)]
  | clearAllFilters => []
  | drillDown d value => [("dimension", .named d), ("value", .text value)]
  | drillNext value => [("value", .text value)]
  | drillUp level => [("level", .nat level)]
  | resetDrill => []
  | setZoom min max =>
    [("min", .orNull Instant.toJson min), ("max", .orNull Instant.toJson max)]
  | clearZoom => []
  | brush min max => [("min", .orNull Instant.toJson min), ("max", .orNull Instant.toJson max)]
  | applyBrush => []
  | clearBrush => []
  | optionsLoaded candidates => [("options", candidates.toJson)]

/-- The JSON of an event. -/
def toJson (event : Event) : Json :=
  .record (("type", .text event.name) :: event.fieldsToJson)

/-- Decodes the bounds of a zoom that has not been checked. -/
def boundsOfJson (value : Json) : Decoded (Option Instant × Option Instant) := do
  let known ← Decode.fields ["min", "max"] 0 value
  let min ← Decode.optionalField known "min" Instant.ofJson
  let max ← Decode.optionalField known "max" Instant.ofJson
  return (min, max)

/-- Decodes an event with a single field. -/
def singleOfJson {α : Type} (name : String) (decode : Json → Decoded α) (value : Json) :
    Decoded α := do
  let known ← Decode.fields [name] 1 value
  Decode.required known name decode

/-- Decodes an event of a type from its other fields. -/
def ofFields (type : String) (value : Json) : Decoded Event :=
  match type with
  | "set_time_range" => do
    let known ← Decode.fields ["start", "end"] 2 value
    let start ← Decode.required known "start" Instant.ofJson
    let finish ← Decode.required known "end" Instant.ofJson
    return .setTimeRange start finish
  | "apply_preset" => (singleOfJson "preset" (Decode.name true) value).map applyPreset
  | "set_filter" => do
    let known ← Decode.fields ["dimension", "value"] 1 value
    let d ← Decode.required known "dimension" (Decode.name true)
    let value ← Decode.optionalField known "value" Decode.text
    return .setFilter d value
  | "clear_filter" => (singleOfJson "dimension" (Decode.name true) value).map clearFilter
  | "clear_all_filters" => Decode.nothing .clearAllFilters value
  | "drill_down" => do
    let known ← Decode.fields ["dimension", "value"] 2 value
    let d ← Decode.required known "dimension" (Decode.name true)
    let value ← Decode.required known "value" Decode.text
    return .drillDown d value
  | "drill_next" => (singleOfJson "value" Decode.text value).map drillNext
  | "drill_up" => (singleOfJson "level" Decode.nat value).map drillUp
  | "reset_drilldown" => Decode.nothing .resetDrill value
  | "set_zoom" => (boundsOfJson value).map fun (min, max) => setZoom min max
  | "clear_zoom" => Decode.nothing .clearZoom value
  | "brush" => (boundsOfJson value).map fun (min, max) => brush min max
  | "apply_brush" => Decode.nothing .applyBrush value
  | "clear_brush" => Decode.nothing .clearBrush value
  | "options_loaded" => (singleOfJson "options" Candidates.ofJson value).map optionsLoaded
  | _ => .error .unexpected

/-- Decodes an event for which the given room is left. -/
def ofJsonWithin (room : Nat) (value : Json) : Decoded Event := do
  if !Decode.fits room value then throw .unexpected
  let (type, rest) ← Decode.tagged "type" value
  ofFields (← Decode.text type) rest

/-- Decodes an event. -/
def ofJson (value : Json) : Decoded Event :=
  ofJsonWithin Decode.greatestDepth value

end Viewpoint.Event
