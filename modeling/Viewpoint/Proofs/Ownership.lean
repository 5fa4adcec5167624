import Viewpoint.Proofs.Facets
import Viewpoint.Proofs.Freshness

/-! The answer to a fetch changes what its own widget loads, and nothing else. -/

namespace Viewpoint

namespace Dashboard

variable {dashboard after : Dashboard} {ticket : Ticket} {slot : Slot} {d : Dimension}
  {result : Except FetchFailure Response} {completion : Completion Reconciliation}

/-- What a response brings is for the dimension of the widget, whatever else it lists. -/
theorem get_of_freshCandidates {widget : Widget} {data : Response} {candidates : Candidates}
    (fresh : freshCandidates widget data = some candidates)
    (foreign : widget.optionsDimension ≠ some d) : candidates.get d = none := by
  cases data with
  | options listed =>
    -- The widget loads some dimension, and of the lists only that one is kept.
    obtain ⟨own, loads, rfl⟩ := Option.map_eq_some_iff.1 fresh
    have apart : d ≠ own := by
      rintro rfl
      exact foreign loads
    rw [Candidates.get_only, if_neg apart]
  | aggregated | timeseries | metrics => cases fresh

/-- An answer brings no list of a dimension that its widget does not load. -/
theorem get_brought (found : dashboard.slots.get? ticket.widget = some slot)
    (foreign : slot.widget.optionsDimension ≠ some d) :
    (dashboard.brought ticket result).get d = none := by
  -- Only an accepted response brings anything, and that is what is fresh in it.
  simp only [brought, found]
  split
  · rename_i data _
    cases fresh : freshCandidates slot.widget data with
    | none => exact Candidates.get_none d
    | some candidates => exact get_of_freshCandidates fresh foreign
  · exact Candidates.get_none d

/-- A widget that loads no candidates has answers that bring none. -/
theorem brought_eq_none (found : dashboard.slots.get? ticket.widget = some slot)
    (plain : slot.widget.optionsDimension = none) : dashboard.brought ticket result = .none := by
  -- Only an answer for a selector is read as a list.
  ext1 d
  rw [get_brought found (by simp [plain]), Candidates.get_none]

/-- An answer leaves the frame. -/
theorem frame_complete (completed : dashboard.complete ticket result = .ok (completion, after)) :
    after.frame = dashboard.frame := by
  -- But for the slots, an answer is the reconciliation of what it brings.
  rw [complete_eq_ok completed, frame_withSlots, frame_reconcile]

/-- An answer uses each list that it brings for its own dimension. -/
theorem facet_complete (completed : dashboard.complete ticket result = .ok (completion, after)) :
    after.facet d = (dashboard.facet d).use (dashboard.frame.mandatory.get d)
      ((dashboard.brought ticket result).get d) := by
  -- Completing an answer is to reconcile what it brings, apart from the slots.
  rw [complete_eq_ok completed, facet_withSlots, facet_reconcile]

/-- An answer that brings nothing leaves the store, the candidates and the latches. -/
theorem complete_of_brought_eq_none
    (completed : dashboard.complete ticket result = .ok (completion, after))
    (nothing : dashboard.brought ticket result = .none) :
    after.store = dashboard.store ∧ after.candidates = dashboard.candidates ∧
      after.reconciler = dashboard.reconciler := by
  -- All but the slots is as it was.
  rw [complete_eq_ok completed, nothing, reconcile_none]
  exact ⟨rfl, rfl, rfl⟩

/-- An answer counts as one revision if it moves a filter, and as none otherwise. -/
theorem revision_complete
    (completed : dashboard.complete ticket result = .ok (completion, after)) :
    after.snapshot.revision = dashboard.snapshot.revision +
      if after.snapshot.filters = dashboard.snapshot.filters then 0 else 1 := by
  -- Completing an answer is to reconcile what it brings, and that commits once.
  rw [complete_eq_ok completed]
  exact revision_reconcile

/-- Filters that agree elsewhere are equal when they agree on one dimension. -/
theorem filters_eq_iff_of_facet
    (others : ∀ other, other ≠ d → after.facet other = dashboard.facet other) :
    after.snapshot.filters = dashboard.snapshot.filters ↔
      after.snapshot.filters.get d = dashboard.snapshot.filters.get d := by
  constructor
  · intro same
    rw [same]
  · intro same
    -- One dimension is given, and the others agree in all that is known of them.
    ext1 other
    by_cases own : other = d
    · rw [own, same]
    · exact congrArg Facet.value (others other own)

/-- The slot of another widget notices the new snapshot, and nothing else happens to it. -/
theorem Completes.get?_of_ne (coherent : dashboard.Coherent)
    (completes : Completes dashboard ticket slot result completion after) {id : String}
    (apart : id ≠ ticket.widget) :
    after.slots.get? id = (dashboard.slots.get? id).map (·.observe after.snapshot) := by
  -- Only the slot of the ticket is settled.
  simp only [completes.get? coherent, apart, if_false]

end Dashboard

namespace Session

variable {config : Config} {session : Session} {fetch : PendingFetch}

/--
The answer to a fetch changes what its own widget loads, and nothing else.

Unless the widget loads candidates, the whole store, the candidates and the latches stay. If it
loads those of a dimension, then filter, latch and list of every other dimension stay, and the
revision counts a change of the filter. In both cases the frame stays, which has the time range, the
drill-down, the zoom and the brush; other widgets do no more than notice the snapshot.
-/
theorem complete_changes_own (reachable : Reachable config session)
    (issued : fetch ∈ session.issued) (result : Except FetchFailure Response) :
    ∃ slot completion after, session.slot? fetch.ticket.widget = some slot ∧
      session.dashboard.complete fetch.ticket result = .ok (completion, after) ∧
      (slot.widget.optionsDimension = none →
        after.store = session.dashboard.store ∧
          after.candidates = session.dashboard.candidates ∧
          after.reconciler = session.dashboard.reconciler) ∧
      (∀ d, slot.widget.optionsDimension = some d →
        (∀ other, other ≠ d → after.facet other = session.dashboard.facet other) ∧
          after.snapshot.revision = session.snapshot.revision +
            if after.snapshot.filters.get d = session.snapshot.filters.get d then 0 else 1) ∧
      after.frame = session.dashboard.frame ∧
      ∀ id, id ≠ fetch.ticket.widget →
        after.slots.get? id = (session.slot? id).map (·.observe after.snapshot) ∧
          after.dataOf id = session.dashboard.dataOf id := by
  -- A fetch that was started belongs to a widget that is still there, so its answer is taken.
  have consistent := Reachable.consistent reachable
  obtain ⟨slot, completion, after, found, completed, completes, _⟩ :=
    consistent.step_complete issued result
  refine ⟨slot, completion, after, found, completed, ?plain, ?loading,
    Dashboard.frame_complete completed, ?others⟩
  case plain =>
    intro plain
    exact Dashboard.complete_of_brought_eq_none completed (Dashboard.brought_eq_none found plain)
  case loading =>
    intro d loads
    -- No list comes in for another dimension, so no other filter can count as a revision.
    have others : ∀ other, other ≠ d → after.facet other = session.dashboard.facet other := by
      intro other apart
      have foreign : slot.widget.optionsDimension ≠ some other := by simp [loads, Ne.symm apart]
      rw [Dashboard.facet_complete completed, Dashboard.get_brought found foreign, Facet.use_none]
    refine ⟨others, ?_⟩
    rw [Dashboard.revision_complete completed]
    exact congrArg _ (if_congr (Dashboard.filters_eq_iff_of_facet others) rfl rfl)
  case others =>
    intro id apart
    have noticed := completes.get?_of_ne consistent.coherent apart
    refine ⟨noticed, ?_⟩
    -- To notice a snapshot leaves the data.
    rw [Dashboard.dataOf, noticed, Option.bind_map]
    rfl

/-- A dropdown for regions. -/
def regions : Widget :=
  .options .region

/-- The dropdown is loading while the filters of two dimensions are set. -/
def browsing : Session :=
  [.dispatch (.setFilter .region (some "us")), .dispatch (.setFilter .service (some "a")),
    .register "regions" regions, .startPending].foldl step fresh

/-- The fetch of the dropdown. -/
def regionsFetch : PendingFetch :=
  ⟨⟨"regions", 0, regions.key browsing.snapshot⟩, regions.request browsing.snapshot⟩

/-- An answer that has a list for each of three dimensions. -/
def threeLists : Except FetchFailure Response :=
  .ok (.options (((Candidates.none.set .region ["eu"]).set .service ["b"]).set .metricName ["cpu"]))

/-- The answer to the dropdown clears the region, and neither the service nor the metric follow. -/
theorem complete_changes_own_regions :
    Reachable .standard browsing ∧ regionsFetch ∈ browsing.issued ∧ ∃ completion after,
      browsing.dashboard.complete regionsFetch.ticket threeLists = .ok (completion, after) ∧
      after.facet .region = ⟨none, false, some ["eu"]⟩ ∧
      after.facet .service = ⟨some "a", false, none⟩ ∧
      after.facet .metricName = ⟨none, true, none⟩ ∧ after.snapshot.revision = 3 := by
  -- The theorem gives the facets of the other dimensions; the slot has to be known for what it
  -- loads.
  have reachable : Reachable .standard browsing := (Run.start fresh_isStart).steps (by decide)
  have issued : regionsFetch ∈ browsing.issued := by decide
  obtain ⟨slot, completion, after, found, completed, _, loading, _⟩ :=
    complete_changes_own reachable issued threeLists
  have dropdown : (browsing.slot? "regions").map (·.widget) = some regions := by rfl
  have loads : slot.widget.optionsDimension = some .region := by
    rw [show browsing.slot? "regions" = some slot from found, Option.map_some,
      Option.some.injEq] at dropdown
    rw [dropdown]
    rfl
  obtain ⟨others, revision⟩ := loading .region loads
  -- The facet of the region is computed, and the others are those from before the answer.
  have own : (browsing.dashboard.complete regionsFetch.ticket threeLists).map (·.2.facet .region) =
      .ok ⟨none, false, some ["eu"]⟩ := by rfl
  rw [completed] at own
  have cleared := Except.ok.inj own
  refine ⟨reachable, issued, completion, after, completed, cleared, ?_, ?_, ?_⟩
  · rw [others .service (by decide)]
    rfl
  · rw [others .metricName (by decide)]
    rfl
  · rw [revision, show after.snapshot.filters.get .region = none from congrArg Facet.value cleared]
    rfl

end Session

end Viewpoint
