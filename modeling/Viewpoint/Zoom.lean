import Viewpoint.Rejection

/-! The zoom of a chart, and the brush that proposes one. -/

namespace Viewpoint

/-- The part of a chart that is shown, open where there is no bound. -/
structure Zoom where
  min : Option Instant
  max : Option Instant
  deriving DecidableEq, Repr

namespace Zoom

/-- The zoom that shows everything. -/
def unbounded : Zoom :=
  ⟨none, none⟩

/-- The zoom with the given bounds, which must not be in reverse order. -/
def within (min max : Option Instant) : Except Rejection Zoom :=
  -- A zoom that is open on either side cannot be in reverse order.
  match min, max with
  | some low, some high => if low ≤ high then .ok ⟨min, max⟩ else .error (.invalidZoom low high)
  | _, _ => .ok ⟨min, max⟩

/-- The zoom shows everything. -/
def isUnbounded (zoom : Zoom) : Bool :=
  zoom.min.isNone && zoom.max.isNone

end Zoom

/-- What becomes of a selection when it is applied. -/
inductive BrushPolicy where
  | localOnly
  | applyOnCommit
  deriving DecidableEq, Repr

namespace BrushPolicy

/-- The name of a policy. -/
def name : BrushPolicy → String
  | localOnly => "local_only"
  | applyOnCommit => "apply_on_commit"

/-- The name of a policy in tables. -/
def title : BrushPolicy → String
  | localOnly => "LocalOnly"
  | applyOnCommit => "ApplyOnCommit"

instance : Named BrushPolicy where
  all := [localOnly, applyOnCommit]
  name := name
  find_name p := by cases p <;> rfl

end BrushPolicy

/-- A brush, and what is selected with it. -/
structure Brush where
  selection : Option Zoom
  deriving DecidableEq, Repr

namespace Brush

/-- A brush with nothing selected. -/
def clean : Brush :=
  ⟨none⟩

/-- Selects a part of the chart, whatever was selected before. -/
def drag (_brush : Brush) (zoom : Zoom) : Brush :=
  ⟨some zoom⟩

/-- Selects nothing. -/
def clear (_brush : Brush) : Brush :=
  clean

/-- Takes the selection away from the brush. -/
def take (brush : Brush) : Option Zoom × Brush :=
  (brush.selection, clean)

end Brush

end Viewpoint
