import Viewpoint.Proofs.Events

/-! Dashboards by dimension: the facets that lists of candidates change, and the frame around. -/

namespace Viewpoint

/-- What a dashboard knows of one dimension: its filter, its latch, and the list that is loaded. -/
structure Facet where
  value : Option String
  armed : Bool
  list : Option (List String)

namespace Facet

variable {facet : Facet} {mandatory : Bool} {list : Option (List String)}

/-- The facet of a dimension after a list was used for it, if one was loaded. -/
def use (facet : Facet) (mandatory : Bool) (list : Option (List String)) : Facet where
  value := Reconciler.valueAfter mandatory facet.armed list facet.value
  armed := Reconciler.latchAfter mandatory facet.armed list
  list := list.or facet.list

/-- Without a list a facet stays. -/
@[simp] theorem use_none : facet.use mandatory none = facet := by
  -- A missing list leaves the value, the latch and the list known before.
  simp only [use, Reconciler.valueAfter_missing, Reconciler.latchAfter_missing, Option.none_or]

/-- A list that was used changes nothing when it is used again. -/
@[simp] theorem use_use :
    (facet.use mandatory list).use mandatory list = facet.use mandatory list := by
  -- The latch falls with the first list, and a filter that survives a list survives it again.
  simp only [use, Reconciler.latchAfter_latchAfter, Reconciler.valueAfter_valueAfter]
  cases list <;> rfl

end Facet

/-- What lists of candidates leave as it is: the settings, the clock and what else is shown. -/
structure Frame where
  config : Config
  presets : List Preset
  navigator : Navigator
  now : Instant
  range : TimeRange
  trail : Trail
  zoom : Zoom
  mandatory : ByDimension Bool
  brush : Brush

namespace Dashboard

variable {dashboard a b : Dashboard} {candidates : Candidates} {d : Dimension}

/-- The frame of a dashboard. -/
def frame (dashboard : Dashboard) : Frame where
  config := dashboard.config
  presets := dashboard.store.presets
  navigator := dashboard.store.navigator
  now := dashboard.store.now
  range := dashboard.snapshot.range
  trail := dashboard.snapshot.trail
  zoom := dashboard.snapshot.zoom
  mandatory := dashboard.reconciler.mandatory
  brush := dashboard.brush

/-- The facet of a dimension. -/
def facet (dashboard : Dashboard) (d : Dimension) : Facet where
  value := dashboard.snapshot.filters.get d
  armed := dashboard.reconciler.isArmed d
  list := dashboard.candidates.get d

/-- The slots of widgets are no part of the frame. -/
theorem frame_withSlots (dashboard : Dashboard) (slots : Slots) :
    { dashboard with slots }.frame = dashboard.frame :=
  rfl

/-- The slots of widgets are no part of a facet. -/
theorem facet_withSlots (dashboard : Dashboard) (slots : Slots) :
    { dashboard with slots }.facet d = dashboard.facet d :=
  rfl

/-- Lists of candidates leave the frame. -/
theorem frame_reconcile : (dashboard.reconcile candidates).2.frame = dashboard.frame := by
  -- The store commits the filters alone, and the reconciler only moves its latches.
  obtain ⟨filters, committed⟩ : ∃ filters, (dashboard.reconcile candidates).2.store =
      dashboard.store.commit (dashboard.snapshot.withFilters filters) := ⟨_, reconcile_commits⟩
  simp only [frame, snapshot, committed, Store.commit_presets, Store.commit_navigator,
    Store.commit_now, Store.commit_range, Store.commit_trail, Store.commit_zoom]
  rfl

/-- Each list of candidates is used for its own dimension. -/
theorem facet_reconcile : (dashboard.reconcile candidates).2.facet d =
    (dashboard.facet d).use (dashboard.frame.mandatory.get d) (candidates.get d) := by
  -- A facet consists of a filter, a latch and a list, and each is told by the list for its
  -- dimension.
  have list : (dashboard.reconcile candidates).2.candidates.get d =
      (candidates.get d).or (dashboard.candidates.get d) := Candidates.get_merge _ _ _
  simp only [facet, get_filters_reconcile, isArmed_reconcile, list]
  rfl

/-- What a commit and a change of the brush make of the frame. -/
theorem frame_adopt (proposal : Snapshot × Brush) : (dashboard.adopt proposal).frame =
    { dashboard.frame with
      range := proposal.1.range
      trail := proposal.1.trail
      zoom := proposal.1.zoom
      brush := proposal.2 } := by
  -- A commit takes the parts of the snapshot over and leaves the settings.
  simp only [adopt, frame, snapshot, Store.commit_presets, Store.commit_navigator,
    Store.commit_now, Store.commit_range, Store.commit_trail, Store.commit_zoom]

/-- An event changes no more of the frame than what it proposes. -/
theorem frame_enact {event : Event} {proposal : Snapshot × Brush} :
    (dashboard.enact event proposal).frame = { dashboard.frame with
      range := proposal.1.range
      trail := proposal.1.trail
      zoom := proposal.1.zoom
      brush := proposal.2 } := by
  -- Latches are no part of the frame, and candidates leave it as it is.
  have rearmed : (dashboard.rearmedBy event).frame = dashboard.frame := by cases event <;> rfl
  rw [enact, frame_reconcile, frame_adopt, rearmed]

/-- A commit leaves latches and lists. -/
theorem facet_adopt (proposal : Snapshot × Brush) : (dashboard.adopt proposal).facet d =
    { dashboard.facet d with value := proposal.1.filters.get d } := by
  -- Of a facet, only the filter is part of the snapshot.
  simp only [adopt, facet, snapshot, Store.commit_filters]

/-- Dashboards with equal frames and facets show the same, whatever their revisions. -/
theorem snapshot_eq_of_look (frame : a.frame = b.frame) (facet : a.facet = b.facet) :
    a.snapshot = { b.snapshot with revision := a.snapshot.revision } := by
  -- The facets tell the filters, and the frame tells all else but the revision.
  have filters : a.snapshot.filters = b.snapshot.filters := by
    ext1 d
    exact congrArg Facet.value (congrFun facet d)
  have range := congrArg Frame.range frame
  have trail := congrArg Frame.trail frame
  have zoom := congrArg Frame.zoom frame
  simp only [Dashboard.frame] at range trail zoom
  show a.snapshot = ⟨a.snapshot.revision, b.snapshot.range, b.snapshot.filters, b.snapshot.trail,
    b.snapshot.zoom⟩
  rw [← range, ← filters, ← trail, ← zoom]

/-- A widget would be at the same key on both. -/
theorem key_of_look (frame : a.frame = b.frame) (facet : a.facet = b.facet) (widget : Widget) :
    widget.key a.snapshot = widget.key b.snapshot := by
  -- No key depends on the revision.
  rw [snapshot_eq_of_look frame facet]
  rfl

/-- On dashboards that look the same an event proposes the same, but for the revision. -/
theorem proposes_of_look (frame : a.frame = b.frame) (facet : a.facet = b.facet) (event : Event) :
    a.proposes event = (b.proposes event).map fun proposal =>
      ({ proposal.1 with revision := a.snapshot.revision }, proposal.2) := by
  have shown := snapshot_eq_of_look frame facet
  have config : a.config = b.config := congrArg Frame.config frame
  have presets : a.store.presets = b.store.presets := congrArg Frame.presets frame
  have navigator : a.store.navigator = b.store.navigator := congrArg Frame.navigator frame
  have now : a.store.now = b.store.now := congrArg Frame.now frame
  have brush : a.brush = b.brush := congrArg Frame.brush frame
  generalize a.snapshot.revision = revision at shown ⊢
  -- A proposal is the old snapshot with parts of it replaced, so it keeps the revision.
  cases event with
  | setTimeRange start finish | applyPreset id | drillDown d value | drillNext value
    | drillUp level | setZoom min max =>
    simp only [proposes, shown, presets, navigator, now, brush, map_map]
    rfl
  | brush min max => simp only [proposes, shown, brush, map_map]
  | setFilter d value | clearFilter d | clearAllFilters | resetDrill | clearZoom | clearBrush
    | optionsLoaded candidates =>
    simp only [proposes, shown, navigator, brush]
    rfl
  | applyBrush =>
    simp only [proposes, shown, config, brush]
    split <;> rfl

/-- What an event makes of the frame and the facets depends on them, and on what it proposes. -/
theorem look_enact_of_look (frame : a.frame = b.frame) (facet : a.facet = b.facet) (event : Event)
    (proposal : Snapshot × Brush) (revision : Nat) :
    (a.enact event ({ proposal.1 with revision }, proposal.2)).frame =
        (b.enact event proposal).frame ∧
      (a.enact event ({ proposal.1 with revision }, proposal.2)).facet =
        (b.enact event proposal).facet := by
  -- The lists that an event loads are its own, or those that the facets hold.
  have loaded : a.loadedBy event = b.loadedBy event := by
    cases event with
    | clearAllFilters =>
      ext1 d
      exact congrArg Facet.list (congrFun facet d)
    | _ => rfl
  have rearmedFrame : (a.rearmedBy event).frame = (b.rearmedBy event).frame := by
    cases event <;> exact frame
  have rearmedFacet : ∀ d, (a.rearmedBy event).facet d = (b.rearmedBy event).facet d := by
    intro d
    cases event with
    | clearAllFilters =>
      -- Which latches are armed again is told by the frame.
      have mandatory : a.reconciler.mandatory = b.reconciler.mandatory :=
        congrArg Frame.mandatory frame
      have same := congrFun facet d
      simp only [Dashboard.facet, Facet.mk.injEq] at same
      simp only [rearmedBy, Dashboard.facet, Reconciler.rearmAll, Reconciler.isArmed, mandatory,
        Facet.mk.injEq, snapshot] at same ⊢
      exact ⟨same.1, trivial, same.2.2⟩
    | _ => exact congrFun facet d
  refine ⟨?_, funext fun d => ?_⟩
  · simp only [frame_enact, frame]
  · simp only [enact, facet_reconcile, facet_adopt, frame_adopt, rearmedFrame, rearmedFacet, loaded]

/-- Dashboards that look the same refuse the same events, and look the same after all others. -/
theorem look_dispatch_of_look (frame : a.frame = b.frame) (facet : a.facet = b.facet)
    (event : Event) :
    (a.dispatch event).map (fun after => (after.frame, after.facet)) =
      (b.dispatch event).map fun after => (after.frame, after.facet) := by
  rw [dispatch_eq, dispatch_eq, proposes_of_look frame facet, map_map, map_map, map_map]
  -- Both sides now map over one proposal, so the rest is what an event makes of it.
  refine congrArg (Except.map · _) (funext fun proposal => ?_)
  obtain ⟨sameFrame, sameFacet⟩ :=
    look_enact_of_look frame facet event proposal a.snapshot.revision
  rw [sameFrame, sameFacet]

end Dashboard

/--
The frame after an operation: the clock is moved, an event gets what it proposes, or nothing
changes, not even for an event, which is refused then.
-/
theorem Session.frame_step_cases (session : Session) (operation : Operation) :
    (∃ now, operation = .setClock now ∧
      (session.step operation).dashboard.frame = { session.dashboard.frame with now }) ∨
    (∃ event proposal, operation = .dispatch event ∧
      session.dashboard.proposes event = .ok proposal ∧
      (session.step operation).dashboard.frame = { session.dashboard.frame with
        range := proposal.1.range
        trail := proposal.1.trail
        zoom := proposal.1.zoom
        brush := proposal.2 }) ∨
    ((∀ now, operation ≠ .setClock now) ∧
      (∀ event after, operation = .dispatch event → session.dashboard.dispatch event ≠ .ok after) ∧
      (session.step operation).dashboard.frame = session.dashboard.frame) := by
  -- The frame has all that is neither a filter nor a latch, list or slot, so the cases are split by
  -- the operation, and only the clock and accepted events are left over.
  cases operation with
  | setClock now => exact .inl ⟨now, rfl, rfl⟩
  | dispatch event =>
    rw [step, Dashboard.dispatch_eq]
    cases proposed : session.dashboard.proposes event with
    | error rejection =>
      -- A refused event leaves the session as it was.
      refine .inr (.inr ⟨by rintro _ ⟨⟩, ?_, rfl⟩)
      rintro _ after ⟨⟩ accepted
      rw [Dashboard.dispatch_eq, proposed] at accepted
      cases accepted
    | ok proposal => exact .inr (.inl ⟨event, proposal, rfl, proposed, Dashboard.frame_enact⟩)
  | register id widget =>
    refine .inr (.inr ⟨by rintro _ ⟨⟩, by rintro _ _ ⟨⟩, ?_⟩)
    -- A new widget is only put into its slot.
    refine become_of (fun later => later.dashboard.frame = session.dashboard.frame) rfl
      fun after registered => ?_
    obtain ⟨-, rfl⟩ := Dashboard.register_eq_ok registered
    rfl
  | reconcile candidates =>
    exact .inr (.inr ⟨by rintro _ ⟨⟩, by rintro _ _ ⟨⟩, Dashboard.frame_reconcile⟩)
  | startPending => exact .inr (.inr ⟨by rintro _ ⟨⟩, by rintro _ _ ⟨⟩, rfl⟩)
  | complete fetch result =>
    refine .inr (.inr ⟨by rintro _ ⟨⟩, by rintro _ _ ⟨⟩, ?_⟩)
    -- An answer may bring candidates, which leave the frame.
    rw [step_complete_dashboard, Dashboard.frame_withSlots]
    exact Dashboard.frame_reconcile

/-- No operation changes the settings, of which mandatory dimensions are a part. -/
theorem Session.settings_step (session : Session) (operation : Operation) :
    (session.step operation).dashboard.config = session.dashboard.config ∧
      (session.step operation).dashboard.store.presets = session.dashboard.store.presets ∧
      (session.step operation).dashboard.store.navigator = session.dashboard.store.navigator ∧
      (session.step operation).dashboard.reconciler.mandatory =
        session.dashboard.reconciler.mandatory := by
  -- Whatever an operation does to the frame, the settings in it stay.
  rcases session.frame_step_cases operation with
    ⟨_, -, frame⟩ | ⟨_, _, -, -, frame⟩ | ⟨-, -, frame⟩ <;>
    exact ⟨congrArg Frame.config frame, congrArg Frame.presets frame,
      congrArg Frame.navigator frame, congrArg Frame.mandatory frame⟩

end Viewpoint
