import Viewpoint.Proofs.Candidates

/-! All events are handled alike: a proposal is committed, and candidates are reconciled. -/

namespace Viewpoint.Dashboard

variable {dashboard after : Dashboard} {event : Event}

/-- The snapshot and the brush that an event proposes, unless it is refused. -/
def proposes (dashboard : Dashboard) : Event → Except Rejection (Snapshot × Brush)
  | .setTimeRange start finish =>
    (TimeRange.between start finish).map fun range =>
      (dashboard.snapshot.withRange range, dashboard.brush)
  | .applyPreset id =>
    (Preset.resolve dashboard.store.presets dashboard.store.now id).map fun range =>
      (dashboard.snapshot.withRange range, dashboard.brush)
  | .setFilter d value => .ok (dashboard.snapshot.withFilter d value, dashboard.brush)
  | .clearFilter d => .ok (dashboard.snapshot.withoutFilter d, dashboard.brush)
  | .clearAllFilters => .ok (dashboard.snapshot.withFiltersCleared, dashboard.brush)
  | .drillDown d value =>
    (Navigator.drillDown dashboard.snapshot.trail dashboard.snapshot.filters d value).map
      fun drilled => (dashboard.snapshot.withDrill drilled, dashboard.brush)
  | .drillNext value =>
    (dashboard.store.navigator.drillNext dashboard.snapshot.trail dashboard.snapshot.filters
      value).map fun drilled => (dashboard.snapshot.withDrill drilled, dashboard.brush)
  | .drillUp level =>
    (dashboard.store.navigator.drillUp dashboard.snapshot.trail dashboard.snapshot.filters
      level).map fun drilled => (dashboard.snapshot.withDrill drilled, dashboard.brush)
  | .resetDrill =>
    .ok (dashboard.snapshot.withDrill (dashboard.store.navigator.reset dashboard.snapshot.trail
      dashboard.snapshot.filters), dashboard.brush)
  | .setZoom min max =>
    (Zoom.within min max).map fun zoom => (dashboard.snapshot.withZoom zoom, dashboard.brush)
  | .clearZoom => .ok (dashboard.snapshot.withZoom .unbounded, dashboard.brush)
  | .brush min max =>
    (Zoom.within min max).map fun zoom => (dashboard.snapshot, dashboard.brush.drag zoom)
  | .applyBrush => .ok <|
    match dashboard.config.brushPolicy, dashboard.brush.selection with
    | .localOnly, _ => (dashboard.snapshot, dashboard.brush)
    | .applyOnCommit, some zoom => (dashboard.snapshot.withZoom zoom, .clean)
    | .applyOnCommit, none => (dashboard.snapshot, .clean)
  | .clearBrush => .ok (dashboard.snapshot, dashboard.brush.clear)
  | .optionsLoaded _ => .ok (dashboard.snapshot, dashboard.brush)

/-- The dashboard with a proposal committed. -/
def adopt (dashboard : Dashboard) (proposal : Snapshot × Brush) : Dashboard :=
  { dashboard with store := dashboard.store.commit proposal.1, brush := proposal.2 }

/-- The dashboard with its latches armed again where an event clears all filters. -/
def rearmedBy (dashboard : Dashboard) : Event → Dashboard
  | .clearAllFilters => { dashboard with reconciler := dashboard.reconciler.rearmAll }
  | _ => dashboard

/-- The candidates that an event reconciles; clearing all filters uses those that are known. -/
def loadedBy (dashboard : Dashboard) : Event → Candidates
  | .optionsLoaded candidates => candidates
  | .clearAllFilters => dashboard.candidates
  | _ => .none

/-- What a proposal makes of the dashboard, with the candidates that the event loads. -/
def enact (dashboard : Dashboard) (event : Event) (proposal : Snapshot × Brush) : Dashboard :=
  (((dashboard.rearmedBy event).adopt proposal).reconcile (dashboard.loadedBy event)).2

/-- A proposal to show what is shown already is no change. -/
theorem adopt_current {brush : Brush} :
    dashboard.adopt (dashboard.snapshot, brush) = dashboard.withBrush brush := by
  -- The store does not commit a snapshot that shows the same as its own.
  have same : dashboard.snapshot.sameState dashboard.store.current = true := by
    simp [Snapshot.sameState_iff, snapshot]
  simp only [adopt, Store.commit_of_sameState same, withBrush]

/-- Widgets that have noticed the snapshot have nothing more to notice. -/
theorem observeAll_observeAll : dashboard.observeAll.observeAll = dashboard.observeAll :=
  -- A slot that is at its key stays at it.
  congrArg (fun slots => { dashboard with slots })
    (mapSlots_observe_observe dashboard.slots dashboard.snapshot dashboard.snapshot)

/-- So it is after a reconciliation, which ends with that. -/
theorem observeAll_reconcile (candidates : Candidates) :
    (dashboard.reconcile candidates).2.observeAll = (dashboard.reconcile candidates).2 :=
  -- What was noticed there need not be noticed again.
  observeAll_observeAll

/-- Loading candidates is to reconcile them. -/
theorem dispatch_optionsLoaded (dashboard : Dashboard) (candidates : Candidates) :
    dashboard.dispatch (.optionsLoaded candidates) = .ok (dashboard.reconcile candidates).2 :=
  -- The event ends with the widgets noticing once more what they have noticed.
  congrArg Except.ok (observeAll_reconcile candidates)

/-- Clearing all filters ends with a reconciliation, too. -/
theorem dispatch_clearAllFilters (dashboard : Dashboard) :
    dashboard.dispatch .clearAllFilters = .ok dashboard.clearAllFilters :=
  -- The lists known before are reconciled last, and the event adds nothing to that.
  congrArg Except.ok (observeAll_reconcile dashboard.candidates)

/-- To let the widgets notice the snapshot is to reconcile no candidates. -/
theorem observeAll_eq_reconcile : dashboard.observeAll = (dashboard.reconcile .none).2 := by
  -- No list asks for anything, so only the notice is left.
  rw [reconcile_of_settled (Reconciler.reconcile_none _ _), Candidates.merge_none]

/-- Handling an event that touches no candidates is to commit what it proposes. -/
theorem handle_eq (cleared : event ≠ .clearAllFilters)
    (loaded : ∀ candidates, event ≠ .optionsLoaded candidates) :
    dashboard.handle event = (dashboard.proposes event).map dashboard.adopt := by
  -- Each event is compared with its proposal, and most agree by their definitions.
  cases event with
  | clearAllFilters => exact absurd rfl cleared
  | optionsLoaded candidates => exact absurd rfl (loaded candidates)
  | setTimeRange start finish | applyPreset id | drillDown d value | drillNext value
    | drillUp level | setZoom min max =>
    simp only [handle, proposes, Store.applyPreset, Store.drillDown, Store.drillNext,
      Store.drillUp, map_map]
    rfl
  | setFilter d value | clearFilter d | resetDrill | clearZoom => rfl
  | brush min max => simp only [handle, proposes, map_map, adopt_current]
  | clearBrush => exact congrArg Except.ok adopt_current.symm
  | applyBrush =>
    -- A brush that is applied proposes a zoom only if the policy says so and something is selected.
    refine congrArg Except.ok ?_
    rw [applyBrush]
    cases dashboard.config.brushPolicy with
    | localOnly => exact adopt_current.symm
    | applyOnCommit =>
      simp only [Brush.take]
      cases dashboard.brush.selection with
      | none => exact adopt_current.symm
      | some zoom => rfl

/-- An event that is not refused commits what it proposes, and reconciles what it loads. -/
theorem dispatch_eq (dashboard : Dashboard) (event : Event) :
    dashboard.dispatch event = (dashboard.proposes event).map (dashboard.enact event) := by
  -- Only two events touch candidates; after the others the widgets notice the snapshot.
  cases event with
  | clearAllFilters => exact dashboard.dispatch_clearAllFilters
  | optionsLoaded candidates =>
    rw [dispatch_optionsLoaded]
    exact congrArg (fun now => Except.ok (reconcile now candidates).2) adopt_current.symm
  | _ =>
    rw [dispatch, handle_eq, map_map]
    · simp only [observeAll_eq_reconcile]
      rfl
    · exact nofun
    · exact nofun

end Viewpoint.Dashboard
