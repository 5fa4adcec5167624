import Viewpoint.Event
import Viewpoint.Proofs.Time.Reader
import Viewpoint.Query.Key

/-!
What becomes of values with instants when they are written and read.

Each instant is read as the one that its text names, so a value is unchanged exactly when all its
instants are legible.
-/

namespace Viewpoint

namespace Instant

/-- A third into the leap second after the fourth second of a minute. -/
def withinMinute : Instant :=
  ⟨1717243204, 1333333333, by decide, by decide⟩

/-- The same part of the fifth second of that minute. -/
def secondAfter : Instant :=
  ⟨1717243205, 333333333, by decide, by decide⟩

/-- The end of that minute. -/
def minuteEnd : Instant :=
  ⟨1717243260, 0, by decide, zero_lt_twoSeconds⟩

/-- An optional instant is read as it was exactly if it is missing or legible. -/
theorem map_asRead_eq_self_iff {t : Option Instant} :
    t.map asRead = t ↔ ∀ u ∈ t.toList, u.IsLegible := by
  -- There is at most one instant to read.
  cases t <;> simp [asRead_eq_self_iff]

end Instant

namespace TimeRange

/-- The time range with its ends as they are read. -/
def asRead (range : TimeRange) : TimeRange :=
  { range with start := range.start.asRead, finish := range.finish.asRead }

/-- The instants of a time range. -/
def instants (range : TimeRange) : List Instant :=
  [range.start, range.finish]

/-- A time range is read as it was exactly if its ends are legible. -/
theorem asRead_eq_self_iff {range : TimeRange} :
    range.asRead = range ↔ ∀ t ∈ range.instants, t.IsLegible := by
  -- Nothing but the ends can change.
  obtain ⟨start, finish, preset⟩ := range
  simp [asRead, instants, Instant.asRead_eq_self_iff]

end TimeRange

namespace Zoom

/-- The zoom with its bounds as they are read. -/
def asRead (zoom : Zoom) : Zoom :=
  ⟨zoom.min.map Instant.asRead, zoom.max.map Instant.asRead⟩

/-- The instants of a zoom. -/
def instants (zoom : Zoom) : List Instant :=
  zoom.min.toList ++ zoom.max.toList

/-- A zoom is read as it was exactly if its bounds are legible. -/
theorem asRead_eq_self_iff {zoom : Zoom} :
    zoom.asRead = zoom ↔ ∀ t ∈ zoom.instants, t.IsLegible := by
  -- The bounds are read one by one.
  obtain ⟨min, max⟩ := zoom
  simp only [asRead, instants, mk.injEq, Instant.map_asRead_eq_self_iff, List.forall_mem_append]

end Zoom

namespace Snapshot

/-- The snapshot with its instants as they are read. -/
def asRead (snapshot : Snapshot) : Snapshot :=
  { snapshot with range := snapshot.range.asRead, zoom := snapshot.zoom.asRead }

/-- The instants of a snapshot. -/
def instants (snapshot : Snapshot) : List Instant :=
  snapshot.range.instants ++ snapshot.zoom.instants

/-- A snapshot is read as it was exactly if its instants are legible. -/
theorem asRead_eq_self_iff {snapshot : Snapshot} :
    snapshot.asRead = snapshot ↔ ∀ t ∈ snapshot.instants, t.IsLegible := by
  -- Only the time range and the zoom have instants.
  obtain ⟨revision, range, filters, trail, zoom⟩ := snapshot
  simp only [asRead, instants, mk.injEq, true_and, TimeRange.asRead_eq_self_iff,
    Zoom.asRead_eq_self_iff, List.forall_mem_append]

end Snapshot

namespace QueryKey

/-- The key with its instants as they are read. -/
def asRead (key : QueryKey) : QueryKey :=
  { key with
    bounds := key.bounds.map fun (start, finish) => (start.asRead, finish.asRead)
    zoom := key.zoom.map Zoom.asRead }

/-- The instants of a key. -/
def instants (key : QueryKey) : List Instant :=
  (key.bounds.toList.flatMap fun (start, finish) => [start, finish])
    ++ key.zoom.toList.flatMap Zoom.instants

/-- A key is read as it was exactly if its instants are legible. -/
theorem asRead_eq_self_iff {key : QueryKey} :
    key.asRead = key ↔ ∀ t ∈ key.instants, t.IsLegible := by
  -- A part that is missing has no instants.
  obtain ⟨bounds, filters, crumbs, zoom⟩ := key
  have ends : (bounds.map fun (start, finish) => (start.asRead, finish.asRead)) = bounds ↔
      ∀ t ∈ bounds.toList.flatMap fun (start, finish) => [start, finish], t.IsLegible := by
    cases bounds <;> simp [Prod.ext_iff, Instant.asRead_eq_self_iff]
  have shown : zoom.map Zoom.asRead = zoom ↔
      ∀ t ∈ zoom.toList.flatMap Zoom.instants, t.IsLegible := by
    cases zoom <;> simp [Zoom.asRead_eq_self_iff]
  simp only [asRead, instants, mk.injEq, true_and, ends, shown, List.forall_mem_append]

end QueryKey

namespace Event

/-- The event with its instants as they are read. -/
def asRead : Event → Event
  | setTimeRange start finish => setTimeRange start.asRead finish.asRead
  | setZoom min max => setZoom (min.map Instant.asRead) (max.map Instant.asRead)
  | brush min max => brush (min.map Instant.asRead) (max.map Instant.asRead)
  | event => event

/-- The instants of an event. -/
def instants : Event → List Instant
  | setTimeRange start finish => [start, finish]
  | setZoom min max => min.toList ++ max.toList
  | brush min max => min.toList ++ max.toList
  | _ => []

/-- An event is read as it was exactly if its instants are legible. -/
theorem asRead_eq_self_iff {event : Event} :
    event.asRead = event ↔ ∀ t ∈ event.instants, t.IsLegible := by
  -- Ranges, zooms and brushes come with instants, and no other events do.
  cases event with
  | setTimeRange start finish => simp [asRead, instants, Instant.asRead_eq_self_iff]
  | setZoom min max | brush min max =>
    simp only [asRead, instants, setZoom.injEq, brush.injEq, Instant.map_asRead_eq_self_iff,
      List.forall_mem_append]
  | _ => simp [asRead, instants]

end Event

end Viewpoint
