import Viewpoint.Wire.Event
import Viewpoint.Wire.Widget

/-! Scripts: widgets to register, and events to dispatch after that. -/

namespace Viewpoint

/-- The widgets and events of a script, in their order. -/
structure Script where
  widgets : List NamedWidget
  events : List Event
  deriving DecidableEq, Repr

namespace Script

/-- The script of nothing. -/
def empty : Script :=
  ⟨[], []⟩

/-- The room for each widget and event, which stand in a list that stands in the script. -/
def elementRoom : Nat :=
  Decode.greatestDepth - 2

/-- Decodes a script. -/
def ofJson (value : Json) : Decoded Script := do
  let known ← Decode.fields ["widgets", "events"] 0 value
  let widgets ← Decode.fieldOr known "widgets" []
    (Decode.list (NamedWidget.ofJsonWithin elementRoom))
  let events ← Decode.fieldOr known "events" [] (Decode.list (Event.ofJsonWithin elementRoom))
  return { widgets, events }

end Script

end Viewpoint
