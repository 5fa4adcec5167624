import Viewpoint.Channel
import Viewpoint.Config
import Viewpoint.Reconcile
import Viewpoint.Snapshot

/-! The store of the current snapshot, which every change goes through. -/

namespace Viewpoint

/-- The current snapshot, the clock and the settings that changes depend on, and subscribers. -/
structure Store where
  presets : List Preset
  navigator : Navigator
  now : Instant
  current : Snapshot
  updates : Channel Snapshot
  deriving DecidableEq, Repr

namespace Store

/-- A store for a valid configuration, at the range of its default preset. -/
def create (config : Config) (now : Instant) : Except Rejection Store := do
  config.validate
  let range ← Preset.resolve config.presets now config.defaultPreset
  let current := Snapshot.initial range
  return {
    presets := config.presets
    navigator := ⟨config.drillPolicy, config.hierarchy⟩
    now, current
    updates := .opening current }

/-- Moves the clock to an instant. -/
def setClock (store : Store) (now : Instant) : Store :=
  { store with now }

/-- Makes a snapshot current and publishes it, with the next revision, if it shows anything new. -/
def commit (store : Store) (next : Snapshot) : Store :=
  -- Subscribers are woken for changes alone, so an event that changes nothing is silent.
  if next.sameState store.current then store
  else
    let next := { next with revision := store.current.revision + 1 }
    { store with current := next, updates := store.updates.publish next }

/-- Changes the time range. -/
def setTimeRange (store : Store) (range : TimeRange) : Store :=
  store.commit (store.current.withRange range)

/-- Changes the time range to that of a preset, as of now. -/
def applyPreset (store : Store) (id : PresetId) : Except Rejection Store :=
  (Preset.resolve store.presets store.now id).map store.setTimeRange

/-- Filters a dimension by a value. -/
def setFilter (store : Store) (d : Dimension) (value : Option String) : Store :=
  store.commit (store.current.withFilter d value)

/-- Clears the filter of a dimension. -/
def clearFilter (store : Store) (d : Dimension) : Store :=
  store.commit (store.current.withoutFilter d)

/-- Clears all filters and leaves the drill-down. -/
def clearAllFilters (store : Store) : Store :=
  store.commit store.current.withFiltersCleared

/-- Drills down to a value of a dimension. -/
def drillDown (store : Store) (d : Dimension) (value : String) : Except Rejection Store :=
  (Navigator.drillDown store.current.trail store.current.filters d value).map
    fun drilled => store.commit (store.current.withDrill drilled)

/-- Drills down to a value of the next dimension. -/
def drillNext (store : Store) (value : String) : Except Rejection Store :=
  (store.navigator.drillNext store.current.trail store.current.filters value).map
    fun drilled => store.commit (store.current.withDrill drilled)

/-- Goes back to a level of the drill-down. -/
def drillUp (store : Store) (level : Nat) : Except Rejection Store :=
  (store.navigator.drillUp store.current.trail store.current.filters level).map
    fun drilled => store.commit (store.current.withDrill drilled)

/-- Leaves the drill-down. -/
def resetDrill (store : Store) : Store :=
  store.commit (store.current.withDrill
    (store.navigator.reset store.current.trail store.current.filters))

/-- Changes the zoom. -/
def setZoom (store : Store) (zoom : Zoom) : Store :=
  store.commit (store.current.withZoom zoom)

/-- Makes the changes of a reconciliation that still apply. -/
def applyReconciliation (store : Store) (changes : Reconciliation) : Store :=
  store.commit (store.current.withFilters (changes.apply store.current.filters))

end Store

end Viewpoint
