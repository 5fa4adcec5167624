import Viewpoint.Proofs.Events
import Viewpoint.Proofs.Presets
import Viewpoint.Proofs.Trail

/-! Every snapshot is well-formed, whatever was done to the dashboard before. -/

namespace Viewpoint

namespace TimeRange

/-- A range starts before it ends. -/
def Ordered (range : TimeRange) : Prop :=
  range.start < range.finish

instance (range : TimeRange) : Decidable range.Ordered :=
  inferInstanceAs (Decidable (range.start < range.finish))

/-- A range that is accepted starts before it ends. -/
theorem ordered_between {start finish : Instant} {range : TimeRange}
    (accepted : between start finish = .ok range) : range.Ordered := by
  -- The range is only made if the check is passed.
  rw [between] at accepted
  split at accepted
  · cases accepted
    assumption
  · cases accepted

/-- So does the range of a preset. -/
theorem ordered_resolve {presets : List Preset} {now : Instant} {id : PresetId} {range : TimeRange}
    (resolved : Preset.resolve presets now id = .ok range) : range.Ordered := by
  -- The range comes out of the same check, and is only marked with the preset.
  obtain ⟨preset, -, -, -, ranged⟩ := Preset.resolve_eq_ok resolved
  obtain ⟨start, -, ordered, rfl⟩ := endingAt_eq_ok_iff.1 ranged
  exact ordered

end TimeRange

namespace Zoom

/-- The bounds of a zoom are not in reverse order. -/
def Ordered (zoom : Zoom) : Prop :=
  ∀ low high, zoom.min = some low → zoom.max = some high → low ≤ high

/-- The zoom that shows everything has no bounds. -/
theorem ordered_unbounded : unbounded.Ordered := by
  -- There is no bound to compare.
  simp [Ordered, unbounded]

/-- A zoom that is accepted has its bounds in order. -/
theorem ordered_within {min max : Option Instant} {zoom : Zoom}
    (accepted : within min max = .ok zoom) : zoom.Ordered := by
  -- Only a zoom with both bounds is checked.
  cases min with
  | none =>
    cases accepted
    rintro low high ⟨⟩
  | some lower =>
    cases max with
    | none =>
      cases accepted
      rintro low high _ ⟨⟩
    | some upper =>
      simp only [within] at accepted
      split at accepted
      · rename_i ordered
        cases accepted
        rintro low high ⟨⟩ ⟨⟩
        exact ordered
      · cases accepted

end Zoom

/-- What is selected with a brush has its bounds in order. -/
def Brush.Ordered (brush : Brush) : Prop :=
  ∀ zoom, brush.selection = some zoom → zoom.Ordered

/-- A clean brush has nothing selected. -/
theorem Brush.ordered_clean : clean.Ordered := by
  -- There is no selection to compare.
  simp [Ordered, clean]

/-- Changes of filters leave none with the empty text. -/
theorem Reconciliation.filled_apply {filters : Filters} (filled : filters.Filled)
    (changes : Reconciliation) : (changes.apply filters).Filled := by
  -- Each change leaves the filters or sets one of them.
  induction changes generalizing filters with
  | nil => exact filled
  | cons change rest ih =>
    have changed : (change.apply filters).Filled := by
      rw [Change.apply]
      split
      · exact filled.set _ _
      · exact filled
    exact ih changed

/-- What every snapshot satisfies. -/
structure Snapshot.WellFormed (snapshot : Snapshot) : Prop where
  range : snapshot.range.Ordered
  zoom : snapshot.zoom.Ordered
  filters : snapshot.filters.Filled
  trail : snapshot.trail.WellFormed

/-- What is shown after a commit is well-formed when what was committed is. -/
theorem Snapshot.WellFormed.commit {store : Store} {next : Snapshot}
    (wellFormed : next.WellFormed) : (store.commit next).current.WellFormed where
  -- All that is asked for is about parts that a commit takes over.
  range := by simpa using wellFormed.range
  zoom := by simpa using wellFormed.zoom
  filters := by simpa using wellFormed.filters
  trail := by simpa using wellFormed.trail

namespace Dashboard

variable {dashboard : Dashboard} {event : Event} {proposal : Snapshot × Brush}

/-- What every dashboard satisfies: what it shows, and what the brush could make it show. -/
structure WellFormed (dashboard : Dashboard) : Prop where
  snapshot : dashboard.snapshot.WellFormed
  brush : dashboard.brush.Ordered

/-- A new dashboard is well-formed. -/
theorem wellFormed_create {config : Config} {now : Instant}
    (created : create config now = .ok dashboard) : dashboard.WellFormed := by
  -- It shows the range of the default preset and nothing else.
  obtain ⟨_, range, resolved, rfl⟩ := create_eq_ok created
  exact ⟨⟨TimeRange.ordered_resolve resolved, Zoom.ordered_unbounded, Filters.filled_none,
    Trail.wellFormed_root⟩, Brush.ordered_clean⟩

/-- What an event proposes to a well-formed dashboard is well-formed. -/
theorem WellFormed.proposes (wellFormed : dashboard.WellFormed)
    (proposed : dashboard.proposes event = .ok proposal) :
    proposal.1.WellFormed ∧ proposal.2.Ordered := by
  have ⟨range, zoom, filters, trail⟩ := wellFormed.snapshot
  have brush := wellFormed.brush
  -- An event proposes new values for some parts, each of which was checked or computed.
  cases event with
  | setTimeRange start finish =>
    obtain ⟨_, accepted, rfl⟩ := map_eq_ok.1 proposed
    exact ⟨⟨TimeRange.ordered_between accepted, zoom, filters, trail⟩, brush⟩
  | applyPreset id =>
    obtain ⟨_, resolved, rfl⟩ := map_eq_ok.1 proposed
    exact ⟨⟨TimeRange.ordered_resolve resolved, zoom, filters, trail⟩, brush⟩
  | setFilter d value =>
    cases proposed
    exact ⟨⟨range, zoom, filters.set d value, trail⟩, brush⟩
  | clearFilter d =>
    cases proposed
    exact ⟨⟨range, zoom, filters.set d none, trail⟩, brush⟩
  | clearAllFilters =>
    cases proposed
    exact ⟨⟨range, zoom, Filters.filled_none, Trail.wellFormed_root⟩, brush⟩
  | drillDown d value =>
    obtain ⟨_, accepted, rfl⟩ := map_eq_ok.1 proposed
    obtain ⟨trail, filters⟩ := Navigator.wellFormed_drillDown trail filters accepted
    exact ⟨⟨range, zoom, filters, trail⟩, brush⟩
  | drillNext value =>
    obtain ⟨_, accepted, rfl⟩ := map_eq_ok.1 proposed
    obtain ⟨trail, filters⟩ := Navigator.wellFormed_drillNext trail filters accepted
    exact ⟨⟨range, zoom, filters, trail⟩, brush⟩
  | drillUp level =>
    obtain ⟨_, accepted, rfl⟩ := map_eq_ok.1 proposed
    obtain ⟨trail, filters⟩ := Navigator.wellFormed_drillUp trail filters accepted
    exact ⟨⟨range, zoom, filters, trail⟩, brush⟩
  | resetDrill =>
    cases proposed
    -- Taking steps back only clears filters.
    exact ⟨⟨range, zoom, Navigator.filled_unwind filters _, Trail.wellFormed_root⟩, brush⟩
  | setZoom min max =>
    obtain ⟨_, accepted, rfl⟩ := map_eq_ok.1 proposed
    exact ⟨⟨range, Zoom.ordered_within accepted, filters, trail⟩, brush⟩
  | clearZoom =>
    cases proposed
    exact ⟨⟨range, Zoom.ordered_unbounded, filters, trail⟩, brush⟩
  | brush min max =>
    obtain ⟨_, accepted, rfl⟩ := map_eq_ok.1 proposed
    refine ⟨wellFormed.snapshot, ?_⟩
    rintro _ ⟨⟩
    exact Zoom.ordered_within accepted
  | applyBrush =>
    obtain rfl := Except.ok.inj proposed
    split
    · exact ⟨wellFormed.snapshot, brush⟩
    · -- A selection was checked when it was brushed.
      rename_i zoom _ selected
      exact ⟨⟨range, brush zoom selected, filters, trail⟩, Brush.ordered_clean⟩
    · exact ⟨wellFormed.snapshot, Brush.ordered_clean⟩
  | clearBrush =>
    cases proposed
    exact ⟨wellFormed.snapshot, Brush.ordered_clean⟩
  | optionsLoaded candidates =>
    cases proposed
    exact ⟨wellFormed.snapshot, brush⟩

/-- Candidates keep a dashboard well-formed, whatever they are. -/
theorem WellFormed.reconcile (wellFormed : dashboard.WellFormed) (candidates : Candidates) :
    (dashboard.reconcile candidates).2.WellFormed where
  -- Only filters are changed, and they are set without empty values.
  snapshot := by
    have ⟨range, zoom, filters, trail⟩ := wellFormed.snapshot
    rw [Dashboard.snapshot, reconcile_store]
    exact Snapshot.WellFormed.commit
      ⟨range, zoom, Reconciliation.filled_apply filters _, trail⟩
  brush := wellFormed.brush

/-- Committing a proposal that is well-formed keeps a dashboard well-formed. -/
theorem wellFormed_adopt (shown : proposal.1.WellFormed) (selected : proposal.2.Ordered) :
    (dashboard.adopt proposal).WellFormed :=
  -- The snapshot is committed, and the brush is put in as it is.
  ⟨shown.commit, selected⟩

/-- Events keep a dashboard well-formed. -/
theorem WellFormed.dispatch {after : Dashboard} (wellFormed : dashboard.WellFormed)
    (dispatched : dashboard.dispatch event = .ok after) : after.WellFormed := by
  -- An event commits its proposal and reconciles the lists that it brings.
  rw [dispatch_eq] at dispatched
  obtain ⟨proposal, proposed, rfl⟩ := map_eq_ok.1 dispatched
  obtain ⟨shown, selected⟩ := wellFormed.proposes proposed
  exact (wellFormed_adopt shown selected).reconcile _

/-- Every label of the drill-down can be gone back to, which leaves the labels up to it. -/
theorem WellFormed.dispatch_drillUp (wellFormed : dashboard.WellFormed) {i : Nat}
    {entry : String × Nat} (listed : dashboard.snapshot.trail.labels[i]? = some entry) :
    ∃ after, dashboard.dispatch (.drillUp entry.2) = .ok after ∧
      after.snapshot.trail.labels = dashboard.snapshot.trail.labels.take (i + 1) := by
  -- The number of a label is a level of the trail, so going back to it is not refused.
  obtain ⟨number, within⟩ := wellFormed.snapshot.trail.labels_numbered listed
  obtain ⟨drilled, accepted, labels⟩ := dashboard.store.navigator.labels_drillUp
    dashboard.snapshot.filters within
  have proposed : dashboard.proposes (.drillUp i) =
      .ok (dashboard.snapshot.withDrill drilled, dashboard.brush) := by
    rw [Dashboard.proposes, accepted]
    rfl
  refine ⟨dashboard.enact (.drillUp i) (dashboard.snapshot.withDrill drilled, dashboard.brush),
    ?_, ?_⟩
  · rw [number, dispatch_eq, proposed]
    rfl
  · have shown : (dashboard.enact (.drillUp i) (dashboard.snapshot.withDrill drilled,
        dashboard.brush)).snapshot.trail = drilled.1 := trail_reconcile.trans Store.commit_trail
    rw [shown, labels]

end Dashboard

namespace Session

variable {session : Session} {config : Config}

/-- Every operation keeps the dashboard well-formed. -/
theorem wellFormed_step (wellFormed : session.dashboard.WellFormed) (operation : Operation) :
    (session.step operation).dashboard.WellFormed := by
  -- Snapshot and brush are touched by events, candidates and answers only.
  cases operation with
  | setClock now | startPending => exact ⟨wellFormed.snapshot, wellFormed.brush⟩
  | register id widget =>
    refine become_of (fun later => later.dashboard.WellFormed) wellFormed fun after registered => ?_
    obtain ⟨_, rfl⟩ := Dashboard.register_eq_ok registered
    exact ⟨wellFormed.snapshot, wellFormed.brush⟩
  | dispatch event =>
    exact become_of (fun later => later.dashboard.WellFormed) wellFormed
      fun after dispatched => wellFormed.dispatch dispatched
  | reconcile candidates => exact wellFormed.reconcile candidates
  | complete fetch result =>
    have ⟨shown, selected⟩ := wellFormed.reconcile (session.dashboard.brought fetch.ticket result)
    rw [step_complete_dashboard]
    exact ⟨shown, selected⟩

/-- Whatever was done, the dashboard is well-formed. -/
theorem Unrestricted.wellFormed (run : Unrestricted config session) :
    session.dashboard.WellFormed := by
  -- The induction is on the operations.
  induction run with
  | start started =>
    obtain ⟨now, dashboard, created, rfl⟩ := started
    exact Dashboard.wellFormed_create created
  | step _ _ before => exact wellFormed_step before _

/--
Whatever was done to a dashboard, its snapshot is well-formed.

The context of its drill-down has the last value of each dimension, and each of its labels can be
gone back to, which leaves the labels up to that one.
-/
theorem snapshot_wellFormed (run : Unrestricted config session) :
    session.snapshot.WellFormed ∧
      (∀ d, session.snapshot.trail.context.get d =
        Trail.lastValue session.snapshot.trail.crumbs d) ∧
      ∀ i entry, session.snapshot.trail.labels[i]? = some entry →
        ∃ after, session.dashboard.dispatch (.drillUp entry.2) = .ok after ∧
          after.snapshot.trail.labels = session.snapshot.trail.labels.take (i + 1) := by
  -- Being in shape is an invariant, and the context and the labels follow from it.
  have wellFormed := run.wellFormed
  refine ⟨wellFormed.snapshot, fun d => ?_, fun i entry => wellFormed.dispatch_drillUp⟩
  have context := wellFormed.snapshot.trail.context
  exact (congrArg (ByDimension.get · d) context).trans (Trail.get_contextOf _ d)

/-- The user has drilled down to a region, to a service in it, and to the same service again. -/
def drilled : Session :=
  [.dispatch (.drillDown .region "eu"), .dispatch (.drillDown .service "api"),
    .dispatch (.drillDown .service "api")].foldl step fresh

/-- The region can be gone back to from the service. -/
theorem snapshot_wellFormed_drilled :
    Unrestricted .standard drilled ∧ drilled.snapshot.trail.level = 2 ∧
      ∃ after, drilled.dashboard.dispatch (.drillUp 1) = .ok after ∧
        after.snapshot.trail.labels = [("All Services", 0), ("Region: eu", 1)] := by
  -- The label of the region is the second one.
  have run : Unrestricted .standard drilled := (Run.start fresh_isStart).steps (by decide)
  obtain ⟨after, dispatched, labels⟩ := (snapshot_wellFormed run).2.2 1 ("Region: eu", 1) (by rfl)
  exact ⟨run, by rfl, after, dispatched, labels.trans (by rfl)⟩

end Session

end Viewpoint
