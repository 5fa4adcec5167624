import Viewpoint.Proofs.Events
import Viewpoint.Proofs.FixedPoint
import Viewpoint.Proofs.Trail

/-! An event that is repeated at once changes nothing more, but for clearing all filters. -/

namespace Viewpoint.Dashboard

variable {dashboard after later : Dashboard} {event : Event} {proposal : Snapshot × Brush}
  {candidates : Candidates}

/-- A dashboard has the settings of one before it, and shows what was proposed there. -/
structure Adopts (dashboard : Dashboard) (proposal : Snapshot × Brush) (later : Dashboard) :
    Prop where
  config : later.config = dashboard.config
  presets : later.store.presets = dashboard.store.presets
  navigator : later.store.navigator = dashboard.store.navigator
  now : later.store.now = dashboard.store.now
  brush : later.brush = proposal.2
  shown : proposal.1.sameState later.snapshot = true

/-- A proposal that was committed is shown, also once the widgets have noticed it. -/
theorem adopts_adopt (dashboard : Dashboard) (proposal : Snapshot × Brush) :
    dashboard.Adopts proposal (dashboard.adopt proposal).observeAll where
  -- A commit leaves the settings and shows what it was given, whether it was new or not.
  config := rfl
  presets := Store.commit_presets
  navigator := Store.commit_navigator
  now := Store.commit_now
  brush := rfl
  shown := dashboard.store.sameState_commit proposal.1

/-- Where its proposal is shown, an event proposes what is shown already. -/
theorem Adopts.proposes (adopts : dashboard.Adopts proposal later)
    (proposed : dashboard.proposes event = .ok proposal)
    (further : ∀ value, event ≠ .drillNext value) :
    ∃ next, later.proposes event = .ok (next, later.brush) ∧
      next.sameState later.snapshot = true := by
  have ⟨config, presets, navigator, now, brush, shown⟩ := adopts
  obtain ⟨range, filters, trail, zoom⟩ := Snapshot.sameState_iff.1 shown
  -- A check that was passed is passed again, and what it gave is in place.
  cases event with
  | drillNext value => exact absurd rfl (further value)
  | setTimeRange start finish | applyPreset id =>
    obtain ⟨chosen, accepted, rfl⟩ := map_eq_ok.1 proposed
    refine ⟨later.snapshot.withRange chosen, ?_, ?_⟩
    · simp only [Dashboard.proposes, presets, now, accepted, Except.map]
    · simp [Snapshot.sameState_iff, Snapshot.withRange, ← range]
  | setFilter d value | clearFilter d =>
    cases proposed
    refine ⟨_, rfl, ?_⟩
    simp [Snapshot.sameState_iff, Snapshot.withFilter, Snapshot.withoutFilter, Filters.clear,
      Filters.set_set, ← filters]
  | clearAllFilters =>
    cases proposed
    refine ⟨_, rfl, ?_⟩
    simp [Snapshot.sameState_iff, Snapshot.withFiltersCleared, ← filters, ← trail]
  | drillDown d value =>
    obtain ⟨drilled, accepted, rfl⟩ := map_eq_ok.1 proposed
    have again := Navigator.drillDown_drillDown accepted
    refine ⟨later.snapshot.withDrill drilled, ?_, ?_⟩
    · simp only [Dashboard.proposes, ← trail, ← filters, Snapshot.withDrill, again, Except.map]
    · simp [Snapshot.sameState_iff, Snapshot.withDrill, ← filters, ← trail]
  | drillUp level =>
    obtain ⟨drilled, accepted, rfl⟩ := map_eq_ok.1 proposed
    have again := Navigator.drillUp_drillUp accepted
    refine ⟨later.snapshot.withDrill drilled, ?_, ?_⟩
    · simp only [Dashboard.proposes, navigator, ← trail, ← filters, Snapshot.withDrill, again,
        Except.map]
    · simp [Snapshot.sameState_iff, Snapshot.withDrill, ← filters, ← trail]
  | resetDrill =>
    cases proposed
    refine ⟨_, rfl, ?_⟩
    simp [Snapshot.sameState_iff, Snapshot.withDrill, Navigator.reset, Trail.root,
      Navigator.unwind_nil, ← filters, ← trail]
  | setZoom min max =>
    obtain ⟨chosen, accepted, rfl⟩ := map_eq_ok.1 proposed
    refine ⟨later.snapshot.withZoom chosen, ?_, ?_⟩
    · simp only [Dashboard.proposes, accepted, Except.map]
    · simp [Snapshot.sameState_iff, Snapshot.withZoom, ← zoom]
  | clearZoom =>
    cases proposed
    refine ⟨_, rfl, ?_⟩
    simp [Snapshot.sameState_iff, Snapshot.withZoom, ← zoom]
  | brush min max =>
    obtain ⟨chosen, accepted, rfl⟩ := map_eq_ok.1 proposed
    refine ⟨later.snapshot, ?_, ?_⟩
    · simp only [Dashboard.proposes, accepted, brush, Except.map, Brush.drag]
    · simp [Snapshot.sameState_iff]
  | applyBrush =>
    -- A selection that was applied is spent.
    cases policy : dashboard.config.brushPolicy with
    | localOnly =>
      refine ⟨later.snapshot, ?_, by simp [Snapshot.sameState_iff]⟩
      simp only [Dashboard.proposes, config, policy]
    | applyOnCommit =>
      have spent : later.brush = .clean := by
        rw [brush]
        cases selected : dashboard.brush.selection with
        | none | some chosen =>
          simp only [Dashboard.proposes, policy, selected] at proposed
          cases proposed
          rfl
      refine ⟨later.snapshot, ?_, by simp [Snapshot.sameState_iff]⟩
      simp only [Dashboard.proposes, config, policy, spent]
      rfl
  | clearBrush =>
    cases proposed
    refine ⟨later.snapshot, ?_, ?_⟩
    · rw [Dashboard.proposes, brush]
      rfl
    · simp [Snapshot.sameState_iff]
  | optionsLoaded candidates => exact ⟨later.snapshot, rfl, by simp [Snapshot.sameState_iff]⟩

/-- A proposal to show what is shown, with the brush as it is, changes nothing. -/
theorem adopt_of_sameState {next : Snapshot} (same : next.sameState dashboard.snapshot = true) :
    dashboard.adopt (next, dashboard.brush) = dashboard := by
  -- The store commits nothing, and the brush is put back as it was.
  simp only [adopt, Store.commit_of_sameState same]

/-- An event that touches no candidates changes nothing more when it is repeated. -/
theorem dispatch_again (dispatched : dashboard.dispatch event = .ok after)
    (cleared : event ≠ .clearAllFilters) (loaded : ∀ candidates, event ≠ .optionsLoaded candidates)
    (further : ∀ value, event ≠ .drillNext value) : after.dispatch event = .ok after := by
  rw [dispatch, handle_eq cleared loaded, map_map] at dispatched
  obtain ⟨proposal, proposed, rfl⟩ := map_eq_ok.1 dispatched
  -- The second proposal shows what the first one has left, so it is no change.
  obtain ⟨next, again, same⟩ := (adopts_adopt dashboard proposal).proposes proposed further
  rw [dispatch, handle_eq cleared loaded, again]
  simp only [Except.map, adopt_of_sameState same]
  exact congrArg Except.ok observeAll_observeAll

attribute [ext] Dashboard

/-- Slots that have noticed what is shown after a reconciliation stay as they are. -/
theorem slots_reconcile {store : Store} (kept : (dashboard.reconcile candidates).2.store = store)
    (noticed : dashboard.slots.mapSlots (·.observe store.current) = dashboard.slots) :
    (dashboard.reconcile candidates).2.slots = dashboard.slots := by
  -- What is shown afterwards is told by the store alone.
  rw [reconcile_slots, snapshot, kept, noticed]

/-- Candidates that were reconciled have nothing more to change. -/
theorem reconcile_reconcile (dashboard : Dashboard) (candidates : Candidates) :
    ((dashboard.reconcile candidates).2.reconcile candidates).2 =
      (dashboard.reconcile candidates).2 := by
  -- They ask for nothing any more, and they are known already.
  have settled : (dashboard.reconcile candidates).2.reconciler.reconcile
      (dashboard.reconcile candidates).2.snapshot.filters candidates =
        ([], (dashboard.reconcile candidates).2.reconciler) := by
    rw [filters_reconcile]
    exact Reconciler.reconcile_again _ _ _
  have known : (dashboard.reconcile candidates).2.candidates.merge candidates =
      (dashboard.reconcile candidates).2.candidates := Candidates.merge_merge _ _
  rw [reconcile_of_settled settled, known]
  show (dashboard.reconcile candidates).2.observeAll = _
  exact observeAll_reconcile candidates

/-- After all filters were cleared, each has the default that its known candidates give it. -/
theorem get_filters_clearAllFilters (dashboard : Dashboard) (d : Dimension) :
    dashboard.clearAllFilters.snapshot.filters.get d =
      Reconciler.valueAfter (dashboard.reconciler.isMandatory d)
        (dashboard.reconciler.isMandatory d) (dashboard.candidates.get d) none := by
  -- All latches are armed and all filters are gone before the lists are reconciled.
  have cleared : dashboard.store.clearAllFilters.current.filters.get d = none :=
    (congrArg (Filters.get · d) Store.commit_filters).trans (ByDimension.get_const _ d)
  exact get_filters_reconcile.trans (congrArg (Reconciler.valueAfter _ _ _) cleared)

/-- After all filters were cleared, each latch is as if it had just been armed. -/
theorem isArmed_clearAllFilters (dashboard : Dashboard) (d : Dimension) :
    dashboard.clearAllFilters.reconciler.isArmed d =
      Reconciler.latchAfter (dashboard.reconciler.isMandatory d)
        (dashboard.reconciler.isMandatory d) (dashboard.candidates.get d) :=
  -- All latches are armed before the lists are reconciled.
  isArmed_reconcile

/-- Clearing all filters loads no new candidates. -/
theorem candidates_clearAllFilters (dashboard : Dashboard) :
    dashboard.clearAllFilters.candidates = dashboard.candidates :=
  -- The lists that are reconciled are those known before.
  Candidates.merge_self _

/-- Clearing all filters again leads to the same defaults. -/
theorem filters_clearAllFilters_again (dashboard : Dashboard) :
    dashboard.clearAllFilters.clearAllFilters.snapshot.filters =
      dashboard.clearAllFilters.snapshot.filters := by
  -- The defaults depend on the lists and the mandatory dimensions only, and these have not changed.
  ext1 d
  rw [get_filters_clearAllFilters, candidates_clearAllFilters, get_filters_clearAllFilters]
  rfl

/-- Clearing all filters leaves the drill-down at its root. -/
theorem trail_clearAllFilters (dashboard : Dashboard) :
    dashboard.clearAllFilters.snapshot.trail = .root :=
  -- The trail is cleared by the first commit and left by the second one.
  trail_reconcile.trans Store.commit_trail

/-- Clearing all filters commits twice: without filters, and with the defaults. -/
theorem store_clearAllFilters (dashboard : Dashboard) :
    dashboard.clearAllFilters.store = dashboard.store.clearAllFilters.commit
      (dashboard.store.clearAllFilters.current.withFilters
        dashboard.clearAllFilters.snapshot.filters) :=
  -- The second commit is that of the reconciliation.
  reconcile_commits

/-- When all filters are cleared again, the second commit comes back to what was shown. -/
theorem sameState_clearAllFilters_again (dashboard : Dashboard) :
    (dashboard.clearAllFilters.store.clearAllFilters.current.withFilters
      dashboard.clearAllFilters.clearAllFilters.snapshot.filters).sameState
        dashboard.clearAllFilters.snapshot = true := by
  -- The filters are the defaults again, and the other parts were left by both clearings.
  rw [filters_clearAllFilters_again]
  refine Snapshot.sameState_iff.2 ⟨Store.commit_range, rfl, ?_, Store.commit_zoom⟩
  exact Store.commit_trail.trans (trail_clearAllFilters dashboard).symm

/-- Clearing all filters shows something new exactly where a filter is set. -/
theorem sameState_withFiltersCleared (bare : dashboard.snapshot.trail = .root) :
    dashboard.snapshot.withFiltersCleared.sameState dashboard.snapshot = true ↔
      dashboard.snapshot.filters = .none := by
  -- The trail is at its root already, so only the filters can differ.
  constructor
  · intro same
    exact (Snapshot.sameState_iff.1 same).2.1.symm
  · intro unfiltered
    exact Snapshot.sameState_iff.2 ⟨rfl, unfiltered.symm, bare.symm, rfl⟩

/-- Where no default comes back, clearing all filters again changes nothing. -/
theorem clearAllFilters_again (dashboard : Dashboard)
    (bare : dashboard.clearAllFilters.snapshot.filters = .none) :
    dashboard.clearAllFilters.clearAllFilters = dashboard.clearAllFilters := by
  -- Neither of the two commits shows anything new.
  have cleared : dashboard.clearAllFilters.store.clearAllFilters =
      dashboard.clearAllFilters.store := Store.commit_of_sameState
    ((sameState_withFiltersCleared (trail_clearAllFilters dashboard)).2 bare)
  have back := sameState_clearAllFilters_again dashboard
  have store : dashboard.clearAllFilters.clearAllFilters.store =
      dashboard.clearAllFilters.store := by
    rw [store_clearAllFilters]
    rw [cleared] at back ⊢
    exact Store.commit_of_sameState back
  have armed : dashboard.clearAllFilters.clearAllFilters.reconciler.armed =
      dashboard.clearAllFilters.reconciler.armed := by
    ext1 d
    refine (isArmed_clearAllFilters _ d).trans (Eq.trans ?_ (isArmed_clearAllFilters _ d).symm)
    rw [candidates_clearAllFilters]
    rfl
  refine Dashboard.ext rfl store ?_ rfl (candidates_clearAllFilters _) ?_
  · exact congrArg (fun armed => { dashboard.reconciler with armed }) armed
  · exact slots_reconcile store (congrArg slots (observeAll_reconcile dashboard.candidates))

/-- Where a default comes back, clearing all filters again counts as two revisions. -/
theorem snapshot_clearAllFilters_again (dashboard : Dashboard)
    (filtered : dashboard.clearAllFilters.snapshot.filters ≠ .none) :
    dashboard.clearAllFilters.clearAllFilters.snapshot =
        { dashboard.clearAllFilters.snapshot with
          revision := dashboard.clearAllFilters.snapshot.revision + 2 } ∧
      dashboard.clearAllFilters.clearAllFilters.store.updates.hasNews
        dashboard.clearAllFilters.store.updates.subscribe = true := by
  -- The first commit takes the defaults away, and the second one brings them back.
  have away : dashboard.clearAllFilters.snapshot.withFiltersCleared.sameState
      dashboard.clearAllFilters.snapshot = false := by
    refine Bool.eq_false_iff.2 fun same => filtered ?_
    exact (sameState_withFiltersCleared (trail_clearAllFilters dashboard)).1 same
  have twice := (store_clearAllFilters dashboard.clearAllFilters).trans
    (Store.commit_commit_back away (sameState_clearAllFilters_again dashboard))
  rw [snapshot, twice]
  exact ⟨rfl, by simp [Channel.hasNews, Channel.subscribe]⟩

/--
Repeating an accepted event other than a drill-down to the next level.

It is accepted again, and changes nothing unless it clears all filters and a default comes back.
Then the same is shown, but two revisions later, and subscribers are told.
-/
theorem dispatch_dispatch (dispatched : dashboard.dispatch event = .ok after)
    (further : ∀ value, event ≠ .drillNext value) :
    ∃ again, after.dispatch event = .ok again ∧
      (again = after ↔ (event = .clearAllFilters → after.snapshot.filters = .none)) ∧
      (again ≠ after →
        again.snapshot = { after.snapshot with revision := after.snapshot.revision + 2 } ∧
          again.store.updates.hasNews after.store.updates.subscribe = true) := by
  -- Clearing all filters is treated apart, since it alone undoes what its own defaults have done.
  by_cases cleared : event = .clearAllFilters
  · -- The defaults are taken away and given back, unless there are none.
    subst cleared
    cases (dispatch_clearAllFilters dashboard).symm.trans dispatched
    have bare := clearAllFilters_again dashboard
    have back := snapshot_clearAllFilters_again dashboard
    refine ⟨_, dispatch_clearAllFilters _, ⟨fun same _ => ?_, fun unset => bare (unset rfl)⟩,
      fun moved => ?_⟩
    · by_contra filtered
      have revision := congrArg Snapshot.revision (back filtered).1
      rw [same] at revision
      exact absurd revision (by simp)
    · exact back fun unset => moved (bare unset)
  · have same : after.dispatch event = .ok after := by
      by_cases loaded : ∃ candidates, event = .optionsLoaded candidates
      · -- Candidates that were adopted are adopted again without effect.
        obtain ⟨candidates, rfl⟩ := loaded
        cases (dispatch_optionsLoaded dashboard candidates).symm.trans dispatched
        rw [dispatch_optionsLoaded, reconcile_reconcile]
      · exact dispatch_again dispatched cleared (fun candidates load => loaded ⟨candidates, load⟩)
          further
    exact ⟨after, same, by simp [cleared], fun moved => absurd rfl moved⟩

/-- Drilling down to a region again changes nothing. -/
theorem dispatch_dispatch_region : ∃ after,
    Session.listed.dashboard.dispatch (.drillDown .region "eu") = .ok after ∧
      after.dispatch (.drillDown .region "eu") = .ok after := by
  -- The event is no clearing of all filters, so the general result leaves nothing to change.
  obtain ⟨after, dispatched⟩ : ∃ after,
      Session.listed.dashboard.dispatch (.drillDown .region "eu") = .ok after := ⟨_, rfl⟩
  obtain ⟨again, repeated, same, _⟩ := dispatch_dispatch dispatched nofun
  obtain rfl := same.2 nofun
  exact ⟨again, dispatched, repeated⟩

/-- Clearing all filters again takes the default of the metric away and gives it back. -/
theorem dispatch_dispatch_metric : Session.Reachable .standard Session.listed ∧ ∃ after again,
    Session.listed.dashboard.dispatch .clearAllFilters = .ok after ∧
      after.dispatch .clearAllFilters = .ok again ∧ again.snapshot ≠ after.snapshot ∧
      again.store.updates.hasNews after.store.updates.subscribe = true := by
  -- In between no metric is shown, which is a change and is committed as one.
  have reachable : Session.Reachable .standard Session.listed :=
    (Run.start Session.fresh_isStart).step trivial
  exact ⟨reachable, _, _, rfl, rfl, by decide, by decide⟩

end Viewpoint.Dashboard
