import Viewpoint.Proofs.Dashboard

/-! A dashboard that is changed in place, one component after the other. -/

namespace Viewpoint

/-- A change of a dashboard in place; what was done before a refusal is not taken back. -/
abbrev InPlace (α : Type) := EStateM Rejection Dashboard α

namespace InPlace

variable {α : Type}

/-- Goes on with a value, or refuses the whole change. -/
def require : Except Rejection α → InPlace α
  | .ok value => pure value
  | .error rejection => throw rejection

/-- Changes the store. -/
def updateStore (change : Store → Store) : InPlace Unit :=
  modify fun now => now.withStore (change now.store)

/-- Commits the snapshot that a drill-down leads to, unless it is refused. -/
def drill (move : Store → Except Rejection (Trail × Filters)) : InPlace Unit := do
  let drilled ← require (move (← get).store)
  updateStore fun store => store.commit (store.current.withDrill drilled)

/-- Takes over what a reconciliation came to: first the latches, then filters, then widgets. -/
def follow (outcome : Reconciliation × Reconciler) : InPlace Reconciliation := do
  modify fun now => { now with reconciler := outcome.2 }
  unless outcome.1.isEmpty do
    updateStore fun store => store.applyReconciliation outcome.1
  modify Dashboard.observeAll
  return outcome.1

/-- Takes over candidates: first into the cache, then all that they ask to change. -/
def reconcile (candidates : Candidates) : InPlace Reconciliation := do
  modify fun now => { now with candidates := now.candidates.merge candidates }
  let now ← get
  follow (now.reconciler.reconcile now.snapshot.filters candidates)

/-- Does what an event asks for, before the widgets notice. -/
def handle : Event → InPlace Unit
  | .setTimeRange start finish => do
    let range ← require (TimeRange.between start finish)
    updateStore fun store => store.setTimeRange range
  | .applyPreset id => do
    let store := (← get).store
    let range ← require (Preset.resolve store.presets store.now id)
    updateStore fun store => store.setTimeRange range
  | .setFilter d value => updateStore fun store => store.setFilter d value
  | .clearFilter d => updateStore fun store => store.clearFilter d
  | .clearAllFilters => do
    updateStore Store.clearAllFilters
    modify fun now => { now with reconciler := now.reconciler.rearmAll }
    let _ ← reconcile (← get).candidates
  | .drillDown d value => drill fun store =>
    Navigator.drillDown store.current.trail store.current.filters d value
  | .drillNext value => drill fun store =>
    store.navigator.drillNext store.current.trail store.current.filters value
  | .drillUp level => drill fun store =>
    store.navigator.drillUp store.current.trail store.current.filters level
  | .resetDrill => updateStore Store.resetDrill
  | .setZoom min max => do
    let zoom ← require (Zoom.within min max)
    updateStore fun store => store.setZoom zoom
  | .clearZoom => updateStore fun store => store.setZoom .unbounded
  | .brush min max => do
    let zoom ← require (Zoom.within min max)
    modify fun now => now.withBrush (now.brush.drag zoom)
  | .applyBrush => do
    let now ← get
    match now.config.brushPolicy with
    | .localOnly => pure ()
    | .applyOnCommit =>
      let (selection, brush) := now.brush.take
      modify fun now => now.withBrush brush
      match selection with
      | some zoom => updateStore fun store => store.setZoom zoom
      | none => pure ()
  | .clearBrush => modify fun now => now.withBrush now.brush.clear
  | .optionsLoaded candidates => do
    let _ ← reconcile candidates

/-- Handles an event, which the widgets notice at last. -/
def dispatch (event : Event) : InPlace Unit := do
  handle event
  modify Dashboard.observeAll

/-- Adds a widget. -/
def register (id : String) (widget : Widget) : InPlace Unit := do
  require widget.validate
  if ((← get).slots.get? id).isSome then throw (.duplicateWidget id)
  modify fun now => { now with slots := now.slots.insert id (.create id widget now.snapshot) }

/-- Changes the slot of a widget. -/
def updateSlot (id : String) (change : Slot → Slot) : InPlace Unit :=
  modify fun now => { now with slots := now.slots.modify id change }

/-- Takes the answer to a fetch: first for the tracker, then as data, then as candidates. -/
def complete (ticket : Ticket) (result : Except FetchFailure Response) :
    InPlace (Completion Reconciliation) := do
  let some slot := (← get).slots.get? ticket.widget
    | throw (.unknownWidget ticket.widget)
  let (completion, tracker) := slot.tracker.settle ticket result
  updateSlot ticket.widget fun slot => { slot with tracker }
  match completion with
  | .ready data =>
    updateSlot ticket.widget fun slot => { slot with data := some data }
    match Dashboard.freshCandidates slot.widget data with
    | some candidates => return .ready (← reconcile candidates)
    | none => return .ready []
  | .failed failure => return .failed failure
  | .discarded => return .discarded

/-- The end of a change that either succeeds as a whole or leaves the dashboard as it was. -/
def atomically (before : Dashboard) : Except Rejection (α × Dashboard) →
    EStateM.Result Rejection Dashboard α
  | .ok (value, after) => .ok value after
  | .error rejection => .error rejection before

variable {dashboard : Dashboard}

/-- A change goes on with the value that it requires, or is refused before it goes on. -/
theorem run_require_bind {β : Type} (result : Except Rejection α) (next : α → InPlace β) :
    (require result >>= next).run dashboard
      = match result with
        | .ok value => (next value).run dashboard
        | .error rejection => .error rejection dashboard := by
  -- To require a result is to return its value or to throw its refusal.
  cases result <;> rfl

/-- A change may look at the dashboard. -/
theorem run_get_bind (next : Dashboard → InPlace α) :
    ((get : InPlace Dashboard) >>= next).run dashboard = (next dashboard).run dashboard :=
  rfl

/-- A change goes on from where the first part of it ends. -/
theorem run_bind_of_ok {β : Type} {first : InPlace α} {next : α → InPlace β} {value : α}
    {after : Dashboard} (ends : first.run dashboard = .ok value after) :
    (first >>= next).run dashboard = (next value).run after := by
  -- The second part is run on what the first part leaves.
  simp only [EStateM.run, bind, EStateM.bind] at ends ⊢
  rw [ends]

/-- A change goes no further than a refusal. -/
theorem run_bind_of_error {β : Type} {first : InPlace α} {next : α → InPlace β}
    {rejection : Rejection} {after : Dashboard}
    (ends : first.run dashboard = .error rejection after) :
    (first >>= next).run dashboard = .error rejection after := by
  -- The second part is not run, and what the first part has changed is not taken back.
  simp only [EStateM.run, bind, EStateM.bind] at ends ⊢
  rw [ends]

/-- A drill-down commits a snapshot, or is refused before. -/
theorem run_drill (move : Store → Except Rejection (Trail × Filters)) :
    (drill move).run dashboard = atomically dashboard ((move dashboard.store).map fun drilled =>
      ((), dashboard.withStore (dashboard.store.commit
        (dashboard.store.current.withDrill drilled)))) := by
  -- The move is required before anything is changed.
  change (require (move dashboard.store) >>= _).run dashboard = _
  rw [run_require_bind]
  cases move dashboard.store <;> rfl

/-- The store changes only if a reconciliation asks for changes. -/
theorem run_follow (outcome : Reconciliation × Reconciler) :
    (follow outcome).run dashboard = .ok outcome.1 (Dashboard.observeAll { dashboard with
      reconciler := outcome.2
      store := if outcome.1.isEmpty then dashboard.store
        else dashboard.store.applyReconciliation outcome.1 }) := by
  -- Whether something was asked for is told by the first of the changes, if any.
  obtain ⟨changes, reconciler⟩ := outcome
  cases changes <;> rfl

/-- Candidates are taken over in place as they are at once. -/
theorem run_reconcile (candidates : Candidates) :
    (reconcile candidates).run dashboard
      = .ok (dashboard.reconcile candidates).1 (dashboard.reconcile candidates).2 :=
  -- The outcome is told by what is there before the change.
  run_follow (dashboard.reconciler.reconcile dashboard.snapshot.filters candidates)

/-- An event is handled in place as it is at once, and not at all if it is refused. -/
theorem run_handle (dashboard : Dashboard) (event : Event) :
    (handle event).run dashboard
      = atomically dashboard ((dashboard.handle event).map fun after => ((), after)) := by
  -- An event is one request that may be refused, followed by steps that are not.
  cases event with
  | setTimeRange start finish =>
    simp only [handle, Dashboard.handle, run_require_bind]
    cases TimeRange.between start finish <;> rfl
  | applyPreset id =>
    change (require (Preset.resolve dashboard.store.presets dashboard.store.now id) >>= _).run
      dashboard = _
    simp only [Dashboard.handle, Store.applyPreset, run_require_bind]
    cases Preset.resolve dashboard.store.presets dashboard.store.now id <;> rfl
  | drillDown d value =>
    simp only [handle, run_drill, Dashboard.handle, Store.drillDown, map_map]
  | drillNext value =>
    simp only [handle, run_drill, Dashboard.handle, Store.drillNext, map_map]
  | drillUp level =>
    simp only [handle, run_drill, Dashboard.handle, Store.drillUp, map_map]
  | setZoom min max | brush min max =>
    simp only [handle, Dashboard.handle, run_require_bind]
    cases Zoom.within min max <;> rfl
  | setFilter d value | clearFilter d | resetDrill | clearZoom | clearBrush => rfl
  | applyBrush =>
    -- The policy and the selection decide what is left to compute.
    obtain ⟨⟨_, _, _, _, policy, _, _⟩, _, _, ⟨selection⟩, _, _⟩ := dashboard
    cases policy <;> cases selection <;> rfl
  | clearAllFilters => exact run_bind_of_ok (run_reconcile _)
  | optionsLoaded candidates => exact run_bind_of_ok (run_reconcile candidates)

/-- An event is dispatched in place as it is at once, and changes nothing if it is refused. -/
theorem run_dispatch (event : Event) :
    (dispatch event).run dashboard
      = atomically dashboard ((dashboard.dispatch event).map fun after => ((), after)) := by
  -- Handling the event is the first part, and letting the widgets notice the second one.
  have handled := run_handle dashboard event
  rw [Dashboard.dispatch, map_map]
  cases accepted : dashboard.handle event with
  | error rejection =>
    rw [accepted] at handled
    exact run_bind_of_error handled
  | ok after =>
    rw [accepted] at handled
    exact run_bind_of_ok handled

/-- A widget is added in place as it is at once, and not at all if it is refused. -/
theorem run_register (id : String) (widget : Widget) :
    (register id widget).run dashboard
      = atomically dashboard ((dashboard.register id widget).map fun after => ((), after)) := by
  -- The widget is required to be valid, and its name to be new, before a slot is added.
  simp only [register, Dashboard.register, run_require_bind]
  cases widget.validate with
  | error rejection => rfl
  | ok valid =>
    simp only [run_get_bind, Except.bind]
    split <;> rfl

/-- An answer is taken in place as it is at once, and not at all if no widget waits for it. -/
theorem run_complete (ticket : Ticket) (result : Except FetchFailure Response) :
    (complete ticket result).run dashboard
      = atomically dashboard (dashboard.complete ticket result) := by
  -- The branches are the same on both sides; only the writes are made one by one here.
  simp only [complete, Dashboard.complete, run_get_bind]
  cases dashboard.slots.get? ticket.widget with
  | none => rfl
  | some slot =>
    simp only
    obtain ⟨completion, tracker⟩ := slot.tracker.settle ticket result
    cases completion with
    | failed failure | discarded => rfl
    | ready data =>
      -- The tracker and the data go into the slot one after the other.
      have kept := dashboard.slots.modify_modify ticket.widget ({ · with tracker })
        ({ · with data := some data })
      simp only at kept ⊢
      rw [← kept]
      cases Dashboard.freshCandidates slot.widget data with
      | none => rfl
      | some candidates => exact run_bind_of_ok (run_reconcile candidates)

end InPlace

end Viewpoint
