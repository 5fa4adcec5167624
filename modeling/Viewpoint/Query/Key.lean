import Viewpoint.Snapshot

/-! Query keys: the part of a snapshot that a widget depends on. -/

namespace Viewpoint

/-- The filters that a widget depends on. -/
inductive FilterScope where
  | none
  | all
  | excluding (d : Dimension)
  deriving DecidableEq, Repr

/-- The parts of a snapshot that a widget depends on. -/
structure Deps where
  timeRange : Bool
  filters : FilterScope
  trail : Bool
  zoom : Bool
  deriving DecidableEq, Repr

namespace Deps

/-- A chart depends on the time range and all filters. -/
def chart : Deps :=
  ⟨true, .all, false, false⟩

/-- A time series depends on the zoom as well. -/
def timeSeries : Deps :=
  { chart with zoom := true }

/-- The candidates of a dimension depend on the filters of all others. -/
def candidatesOf (d : Dimension) : Deps :=
  ⟨false, .excluding d, false, false⟩

end Deps

/-- The filters of a scope, in the order of dimensions. -/
def FilterScope.select (scope : FilterScope) (filters : Filters) : List (Dimension × String) :=
  match scope with
  | .none => []
  | .all => filters.active
  | .excluding d => filters.activeExcluding d

/-- The parts of a snapshot that a query was made for; parts it does not depend on are missing. -/
structure QueryKey where
  bounds : Option (Instant × Instant)
  filters : List (Dimension × String)
  crumbs : Option (List Crumb)
  zoom : Option Zoom
  deriving DecidableEq, Repr

/-- The key of the queries that depend on the given parts of a snapshot. -/
def QueryKey.derive (snapshot : Snapshot) (deps : Deps) : QueryKey where
  -- The preset of the range is left out: equal ends give equal data.
  bounds := if deps.timeRange then some (snapshot.range.start, snapshot.range.finish) else none
  filters := deps.filters.select snapshot.filters
  crumbs := if deps.trail then some snapshot.trail.crumbs else none
  zoom := if deps.zoom then some snapshot.zoom else none

end Viewpoint
