import Viewpoint.TimeRange
import Viewpoint.Trail
import Viewpoint.Zoom

/-! The state of a dashboard that its widgets depend on, at one revision. -/

namespace Viewpoint

/--
What a dashboard shows: a time range, filters, a drill-down and a zoom.

Changes are counted without end in `revision`. A counter of one word would be full after 2^64
changes, and such runs are left out.
-/
structure Snapshot where
  revision : Nat
  range : TimeRange
  filters : Filters
  trail : Trail
  zoom : Zoom
  deriving DecidableEq, Repr

namespace Snapshot

/-- The first snapshot for a time range. -/
def initial (range : TimeRange) : Snapshot :=
  ⟨0, range, .none, .root, .unbounded⟩

/-- Two snapshots show the same, whatever their revisions. -/
def sameState (a b : Snapshot) : Bool :=
  a.range == b.range && a.filters == b.filters && a.trail == b.trail && a.zoom == b.zoom

/-- The snapshot with another time range. -/
def withRange (snapshot : Snapshot) (range : TimeRange) : Snapshot :=
  { snapshot with range }

/-- The snapshot with a dimension filtered by a value. -/
def withFilter (snapshot : Snapshot) (d : Dimension) (value : Option String) : Snapshot :=
  { snapshot with filters := snapshot.filters.set d value }

/-- The snapshot with the filter of a dimension cleared. -/
def withoutFilter (snapshot : Snapshot) (d : Dimension) : Snapshot :=
  { snapshot with filters := snapshot.filters.clear d }

/-- The snapshot without any filter or step of a drill-down. -/
def withFiltersCleared (snapshot : Snapshot) : Snapshot :=
  { snapshot with filters := .none, trail := .root }

/-- The snapshot with another zoom. -/
def withZoom (snapshot : Snapshot) (zoom : Zoom) : Snapshot :=
  { snapshot with zoom }

/-- The snapshot with another drill-down and the filters that go with it. -/
def withDrill (snapshot : Snapshot) (drilled : Trail × Filters) : Snapshot :=
  { snapshot with trail := drilled.1, filters := drilled.2 }

/-- The snapshot with other filters. -/
def withFilters (snapshot : Snapshot) (filters : Filters) : Snapshot :=
  { snapshot with filters }

end Snapshot

end Viewpoint
