import Viewpoint.Widget
import Viewpoint.Wire.Decode

/-! Widgets in JSON. -/

namespace Viewpoint

namespace Widget

/-- The JSON of a widget. -/
def toJson : Widget → Json
  | aggregated groupBy aggregation =>
    .record [("kind", .text "aggregated"), ("group_by", .named groupBy),
      ("aggregation", .named aggregation)]
  | timeseries interval =>
    .record [("kind", .text "timeseries"), ("interval", .orNull .named interval)]
  | metrics => .record [("kind", .text "metrics")]
  | options d => .record [("kind", .text "options"), ("dimension", .named d)]

/-- The kinds of widgets, in their order. -/
def kinds : List String :=
  ["aggregated", "timeseries", "metrics", "options"]

/-- Decodes a widget of a kind from its other fields. -/
def ofFields (kind : String) (value : Json) : Decoded Widget :=
  match kind with
  | "aggregated" => do
    let known ← Decode.fields ["group_by", "aggregation"] 1 value
    let groupBy ← Decode.required known "group_by" (Decode.name true)
    let aggregation ← Decode.fieldOr known "aggregation" .standard (Decode.name true)
    return .aggregated groupBy aggregation
  | "timeseries" => do
    let known ← Decode.fields ["interval"] 0 value
    return .timeseries (← Decode.optionalField known "interval" (Decode.name true))
  | "metrics" => Decode.nothing .metrics value
  | "options" => do
    let known ← Decode.fields ["dimension"] 1 value
    return .options (← Decode.required known "dimension" (Decode.name true))
  | _ => .error .unexpected

/-- Decodes a widget for which the given room is left. -/
def ofJsonWithin (room : Nat) (value : Json) : Decoded Widget := do
  if !Decode.fits room value then throw .unexpected
  let (kind, rest) ← Decode.tagged "kind" value
  ofFields (← Decode.text kind) rest

/-- Decodes a widget. -/
def ofJson (value : Json) : Decoded Widget :=
  ofJsonWithin Decode.greatestDepth value

/-- Decodes the kind of a widget: its name, or its place in the order of kinds. -/
def kindOfJson : Json → Decoded String
  | .number numeral => do
    let place ← Decode.nat (.number numeral)
    Decode.found kinds[place]?
  | value => Decode.text value

end Widget

/-- A widget and the name that it is registered under. -/
structure NamedWidget where
  id : String
  widget : Widget
  deriving DecidableEq, Repr

/-- Decodes a widget with its name, which is one more field of it. -/
def NamedWidget.ofJsonWithin (room : Nat) (value : Json) : Decoded NamedWidget := do
  if !Decode.fits room value then throw .unexpected
  match value with
  | .object members =>
    let known ← Decode.fields ["id"] 1 value
    let id ← Decode.required known "id" Decode.text
    let (kind, rest) ← Decode.tagged "kind"
      (.object (members.filter fun (key, _) => key != some "id"))
    return ⟨id, ← Widget.ofFields (← Widget.kindOfJson kind) rest⟩
  | _ => throw .unexpected

end Viewpoint
