import Viewpoint.Filters
import Viewpoint.Rejection

/-! The drill-down trail, and how moving along it changes the filters. -/

namespace Viewpoint

/-- A step of a drill-down. -/
structure Crumb where
  dimension : Dimension
  value : String
  level : Nat
  deriving DecidableEq, Repr

/-- A drill-down: its level, the steps that led there, and the last value for each dimension. -/
structure Trail where
  level : Nat
  context : ByDimension (Option String)
  crumbs : List Crumb
  deriving DecidableEq, Repr

namespace Trail

/-- The label of the level that no step leads to. -/
def rootLabel : String := "All Services"

/-- The trail without any step. -/
def root : Trail :=
  ⟨0, .const none, []⟩

/-- The trail has no step. -/
def isEmpty (trail : Trail) : Bool :=
  trail.crumbs.isEmpty

/-- The context of some steps: for each dimension the value of its last step. -/
def contextOf (crumbs : List Crumb) : ByDimension (Option String) :=
  crumbs.foldl (fun context crumb => context.set crumb.dimension (some crumb.value)) (.const none)

/-- The trail ends in a step to the given value. -/
def endsAt (trail : Trail) (d : Dimension) (value : String) : Bool :=
  trail.crumbs.getLast?.any fun crumb => crumb.dimension == d && crumb.value == value

/-- Adds a step one level deeper, unless the trail ends in the same step already. -/
def push (trail : Trail) (d : Dimension) (value : String) : Trail :=
  -- Drilling into the same value twice is one step.
  if trail.endsAt d value then trail
  else
    let level := trail.level + 1
    ⟨level, trail.context.set d (some value), trail.crumbs ++ [⟨d, value, level⟩]⟩

/-- Goes back to a level: the steps that are removed, and the trail that remains. -/
def truncate (trail : Trail) (level : Nat) : Except Rejection (List Crumb × Trail) :=
  if trail.level < level then .error (.invalidDrillLevel level trail.level)
  else
    -- The context forgets the values that only the removed steps had.
    let kept := trail.crumbs.take level
    .ok (trail.crumbs.drop level, ⟨level, contextOf kept, kept⟩)

/-- The labels of the levels of a trail with their numbers, the root first. -/
def labels (trail : Trail) : List (String × Nat) :=
  (rootLabel, 0) ::
    trail.crumbs.map fun crumb => (s!"{crumb.dimension.label}: {crumb.value}", crumb.level)

end Trail

/-- What happens to filters when the steps that set them are taken back. -/
inductive DrillPolicy where
  | sticky
  | unwind
  deriving DecidableEq, Repr

namespace DrillPolicy

/-- The name of a policy. -/
def name : DrillPolicy → String
  | sticky => "sticky"
  | unwind => "unwind"

/-- The name of a policy in tables. -/
def title : DrillPolicy → String
  | sticky => "Sticky"
  | unwind => "Unwind"

instance : Named DrillPolicy where
  all := [sticky, unwind]
  name := name
  find_name p := by cases p <;> rfl

end DrillPolicy

/-- The dimensions of the levels of a drill-down, the outermost first. -/
structure Hierarchy where
  levels : List Dimension
  deriving DecidableEq, Repr

namespace Hierarchy

/-- The levels that are used unless others are configured. -/
def standard : Hierarchy :=
  ⟨[.service, .endpoint, .region, .environment]⟩

/-- The dimension of a level. -/
def at? (hierarchy : Hierarchy) (level : Nat) : Option Dimension :=
  hierarchy.levels[level]?

/-- The deepest level. -/
def maxDepth (hierarchy : Hierarchy) : Nat :=
  hierarchy.levels.length - 1

/-- There is a level below the given one. -/
def isDrillable (hierarchy : Hierarchy) (level : Nat) : Bool :=
  level < hierarchy.maxDepth

end Hierarchy

/-- The way to move along a trail: a policy for filters, and the levels. -/
structure Navigator where
  policy : DrillPolicy
  hierarchy : Hierarchy
  deriving DecidableEq, Repr

namespace Navigator

/-- Drills down to a value of a dimension and filters by it. -/
def drillDown (trail : Trail) (filters : Filters) (d : Dimension) (value : String) :
    Except Rejection (Trail × Filters) :=
  if value.isEmpty then .error (.emptyDrillValue d)
  else .ok (trail.push d value, filters.set d (some value))

/-- Drills down to a value of the dimension that the hierarchy has for the level. -/
def drillNext (navigator : Navigator) (trail : Trail) (filters : Filters) (value : String) :
    Except Rejection (Trail × Filters) :=
  -- The level of the trail is the place of the next dimension, counted from the outermost.
  match navigator.hierarchy.at? trail.level with
  | none => .error (.drillDepthExceeded trail.level)
  | some d => drillDown trail filters d value

/--
Takes back the filter that a removed step has set.

A filter that is no longer at the value of the step was changed since and stays.
-/
def takeBack (context : ByDimension (Option String)) (filters : Filters) (crumb : Crumb) :
    Filters :=
  if filters.get crumb.dimension = some crumb.value then
    filters.set crumb.dimension (context.get crumb.dimension)
  else filters

/-- Takes back the filters of removed steps, if the policy says so. -/
def unwind (navigator : Navigator) (trail : Trail) (filters : Filters) (removed : List Crumb) :
    Filters :=
  match navigator.policy with
  | .sticky => filters
  | .unwind => removed.foldl (takeBack trail.context) filters

/-- Goes back to a level. -/
def drillUp (navigator : Navigator) (trail : Trail) (filters : Filters) (level : Nat) :
    Except Rejection (Trail × Filters) :=
  -- The remaining trail decides what a filter goes back to.
  (trail.truncate level).map fun (removed, kept) =>
    (kept, navigator.unwind kept filters removed)

/-- Goes back to the root. -/
def reset (navigator : Navigator) (trail : Trail) (filters : Filters) : Trail × Filters :=
  (.root, navigator.unwind .root filters trail.crumbs)

end Navigator

end Viewpoint
