import Viewpoint.Event
import Viewpoint.Query.Tracker
import Viewpoint.Store
import Viewpoint.Widget

/-! The dashboard: events change its snapshot, and its widgets fetch what they then need. -/

namespace Viewpoint

/-- A registered widget with its fetches and the last data it was given. -/
structure Slot where
  widget : Widget
  tracker : Tracker
  data : Option Response
  deriving DecidableEq, Repr

namespace Slot

/-- The key of the widget at a snapshot is the one that it is at from now on. -/
def observe (slot : Slot) (snapshot : Snapshot) : Slot :=
  { slot with tracker := slot.tracker.observe (slot.widget.key snapshot) }

/-- A slot for a widget that is new at a snapshot. -/
def create (id : String) (widget : Widget) (snapshot : Snapshot) : Slot :=
  observe ⟨widget, .new id, none⟩ snapshot

end Slot

/-- The slots of widgets by their names, in the order of names. -/
abbrev Slots := List (String × Slot)

namespace Slots

/-- The slot of a widget. -/
def get? (slots : Slots) (id : String) : Option Slot :=
  slots.lookup id

/-- Puts in a slot at its place in the order of names. -/
def insert (id : String) (slot : Slot) : Slots → Slots
  -- Names are compared character by character.
  | [] => [(id, slot)]
  | (other, present) :: rest =>
    if id < other then (id, slot) :: (other, present) :: rest
    else (other, present) :: insert id slot rest

/-- Changes the slot of a widget. -/
def modify (slots : Slots) (id : String) (change : Slot → Slot) : Slots :=
  slots.map fun (other, slot) => if other = id then (other, change slot) else (other, slot)

/-- Changes all slots. -/
def mapSlots (slots : Slots) (change : Slot → Slot) : Slots :=
  slots.map fun (id, slot) => (id, change slot)

end Slots

/-- A fetch that was started, with the request to send. -/
structure PendingFetch where
  ticket : Ticket
  request : Request
  deriving DecidableEq, Repr

/-- A dashboard: its settings, the store, the reconciler, the brush, candidates and widgets. -/
structure Dashboard where
  config : Config
  store : Store
  reconciler : Reconciler
  brush : Brush
  candidates : Candidates
  slots : Slots
  deriving DecidableEq, Repr

namespace Dashboard

/-- A dashboard without widgets for a valid configuration. -/
def create (config : Config) (now : Instant) : Except Rejection Dashboard :=
  (Store.create config now).map fun store => {
    config, store
    reconciler := .ofMandatory config.mandatoryDefaults
    brush := .clean
    candidates := .none
    slots := [] }

/-- The current snapshot. -/
def snapshot (dashboard : Dashboard) : Snapshot :=
  dashboard.store.current

/-- Moves the clock to an instant. -/
def setClock (dashboard : Dashboard) (now : Instant) : Dashboard :=
  { dashboard with store := dashboard.store.setClock now }

/-- The value to show for a dimension. -/
def displayValue (dashboard : Dashboard) (d : Dimension) : Option String :=
  dashboard.snapshot.filters.displayValue d (dashboard.candidates.get d)

/-- Adds a widget under a name that no other widget has. -/
def register (dashboard : Dashboard) (id : String) (widget : Widget) :
    Except Rejection Dashboard :=
  -- A grouping that is not supported is reported before a name that is taken.
  widget.validate.bind fun _ =>
    if (dashboard.slots.get? id).isSome then .error (.duplicateWidget id)
    else .ok { dashboard with
      slots := dashboard.slots.insert id (.create id widget dashboard.snapshot) }

/-- Every widget is at its key for the current snapshot from now on. -/
def observeAll (dashboard : Dashboard) : Dashboard :=
  { dashboard with slots := dashboard.slots.mapSlots fun slot => slot.observe dashboard.snapshot }

/--
Takes over candidates and changes the filters that they ask to change.

Only the new candidates are used, so a list that was loaded before changes nothing again.
-/
def reconcile (dashboard : Dashboard) (candidates : Candidates) : Reconciliation × Dashboard :=
  let (changes, reconciler) :=
    dashboard.reconciler.reconcile dashboard.snapshot.filters candidates
  -- A reconciliation without changes must not count as a revision.
  let store :=
    if changes.isEmpty then dashboard.store else dashboard.store.applyReconciliation changes
  -- The cache keeps the lists of the other dimensions.
  let merged := dashboard.candidates.merge candidates
  (changes, { dashboard with store, reconciler, candidates := merged }.observeAll)

/-- The dashboard with the store after a change. -/
def withStore (dashboard : Dashboard) (store : Store) : Dashboard :=
  { dashboard with store }

/-- The dashboard with the brush after a change. -/
def withBrush (dashboard : Dashboard) (brush : Brush) : Dashboard :=
  { dashboard with brush }

/--
Clears all filters and lets the defaults come back.

The lists in the cache were loaded under filters, so their values stay valid without them.
-/
def clearAllFilters (dashboard : Dashboard) : Dashboard :=
  -- The mandatory dimensions are armed first, so that the cached lists give them defaults.
  let cleared := { dashboard with
    store := dashboard.store.clearAllFilters
    reconciler := dashboard.reconciler.rearmAll }
  (cleared.reconcile cleared.candidates).2

/-- Makes the selection of the brush the zoom, if the policy says so. -/
def applyBrush (dashboard : Dashboard) : Dashboard :=
  match dashboard.config.brushPolicy with
  | .localOnly => dashboard
  | .applyOnCommit =>
    -- An applied selection is spent, and without one nothing is applied.
    match dashboard.brush.take with
    | (some zoom, brush) => (dashboard.withStore (dashboard.store.setZoom zoom)).withBrush brush
    | (none, brush) => dashboard.withBrush brush

/-- What an event does before the widgets notice. -/
def handle (dashboard : Dashboard) : Event → Except Rejection Dashboard
  -- What an event can be refused for is checked before anything is changed.
  | .setTimeRange start finish =>
    (TimeRange.between start finish).map fun range =>
      dashboard.withStore (dashboard.store.setTimeRange range)
  | .applyPreset id => (dashboard.store.applyPreset id).map dashboard.withStore
  | .setFilter d value => .ok (dashboard.withStore (dashboard.store.setFilter d value))
  | .clearFilter d => .ok (dashboard.withStore (dashboard.store.clearFilter d))
  | .clearAllFilters => .ok dashboard.clearAllFilters
  | .drillDown d value => (dashboard.store.drillDown d value).map dashboard.withStore
  | .drillNext value => (dashboard.store.drillNext value).map dashboard.withStore
  | .drillUp level => (dashboard.store.drillUp level).map dashboard.withStore
  | .resetDrill => .ok (dashboard.withStore dashboard.store.resetDrill)
  | .setZoom min max =>
    (Zoom.within min max).map fun zoom => dashboard.withStore (dashboard.store.setZoom zoom)
  | .clearZoom => .ok (dashboard.withStore (dashboard.store.setZoom .unbounded))
  | .brush min max =>
    (Zoom.within min max).map fun zoom => dashboard.withBrush (dashboard.brush.drag zoom)
  | .applyBrush => .ok dashboard.applyBrush
  | .clearBrush => .ok (dashboard.withBrush dashboard.brush.clear)
  | .optionsLoaded candidates => .ok (dashboard.reconcile candidates).2

/-- Handles an event, after which every widget is at its key for the current snapshot. -/
def dispatch (dashboard : Dashboard) (event : Event) : Except Rejection Dashboard :=
  (dashboard.handle event).map observeAll

/-- Starts the fetch that a slot needs, if it needs one. -/
def beginFetch (snapshot : Snapshot) (slot : Slot) : Option PendingFetch × Slot :=
  -- Ticket and request are made at the same snapshot.
  match slot.tracker.begin with
  | none => (none, slot)
  | some (ticket, tracker) => (some ⟨ticket, slot.widget.request snapshot⟩, { slot with tracker })

/-- Starts all fetches that are needed, in the order of widgets. -/
def pendingFetches (dashboard : Dashboard) : List PendingFetch × Dashboard :=
  (dashboard.slots.filterMap fun (_, slot) => (beginFetch dashboard.snapshot slot).1,
    { dashboard with
      slots := dashboard.slots.mapSlots fun slot => (beginFetch dashboard.snapshot slot).2 })

/-- The candidates that data brings for the dimension of a widget. -/
def freshCandidates (widget : Widget) : Response → Option Candidates
  -- An answer counts for the dimension that was asked for, whatever else it lists.
  | .options candidates => widget.optionsDimension.map candidates.only
  | _ => none

/-- Takes the answer to a fetch; candidates that it brings are reconciled. -/
def complete (dashboard : Dashboard) (ticket : Ticket) (result : Except FetchFailure Response) :
    Except Rejection (Completion Reconciliation × Dashboard) :=
  match dashboard.slots.get? ticket.widget with
  | none => .error (.unknownWidget ticket.widget)
  | some slot =>
    let (completion, tracker) := slot.tracker.settle ticket result
    let update (change : Slot → Slot) : Dashboard :=
      { dashboard with slots := dashboard.slots.modify ticket.widget change }
    match completion with
    | .ready data =>
      -- The data is kept before its candidates move the filters.
      let stored := update fun slot => { slot with tracker, data := some data }
      match freshCandidates slot.widget data with
      | some candidates =>
        let (changes, dashboard) := stored.reconcile candidates
        .ok (.ready changes, dashboard)
      | none => .ok (.ready [], stored)
    | .failed failure => .ok (.failed failure, update fun slot => { slot with tracker })
    | .discarded => .ok (.discarded, update fun slot => { slot with tracker })

/-- Some widget needs a fetch. -/
def needsFetch (dashboard : Dashboard) : Bool :=
  dashboard.slots.any fun (_, slot) => slot.tracker.needsFetch

end Dashboard

end Viewpoint
