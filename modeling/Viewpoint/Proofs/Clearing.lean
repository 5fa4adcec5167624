import Viewpoint.Proofs.Facets
import Viewpoint.Proofs.Repetition

/-! Clearing all filters leaves the defaults that are known, whatever was done before. -/

namespace Viewpoint

namespace Reconciler

variable {mandatory : Bool} {list : Option (List String)} {value : String}

/-- A list gives an armed dimension its first candidate as the default, unless that is empty. -/
theorem valueAfter_default_eq_some_iff :
    valueAfter mandatory mandatory list none = some value ↔
      mandatory = true ∧ value ≠ "" ∧ ∃ rest, list = some (value :: rest) := by
  match list with
  | none | some [] => simp [valueAfter]
  | some (first :: rest) =>
    cases mandatory with
    | false => simp [valueAfter]
    | true =>
      -- The first candidate is set, but to filter by the empty text is not to filter.
      have due : valueAfter true true (some (first :: rest)) none = Filters.proper (some first) :=
        rfl
      rw [due, Filters.proper_eq_some_iff]
      constructor
      · rintro ⟨⟨⟩, filled⟩
        exact ⟨rfl, filled, rest, rfl⟩
      · rintro ⟨-, filled, _, ⟨⟩⟩
        exact ⟨rfl, filled⟩

/-- An armed dimension stays armed exactly if its list has no candidates. -/
theorem latchAfter_default_iff : latchAfter mandatory mandatory list = true ↔
    mandatory = true ∧ (list = none ∨ list = some []) := by
  -- Only the head of the list matters.
  match list with
  | none | some [] => simp [latchAfter]
  | some (_ :: _) => simp [latchAfter]

end Reconciler

/-- Clearing all filters leaves the frame, but for the drill-down, which is left. -/
theorem Dashboard.frame_clearAllFilters (dashboard : Dashboard) :
    dashboard.clearAllFilters.frame = { dashboard.frame with trail := .root } := by
  -- What is committed first has no steps; the defaults that come after it are no part of the frame.
  have rearmed := (dashboard.rearmedBy .clearAllFilters).frame_adopt
    (dashboard.snapshot.withFiltersCleared, dashboard.brush)
  rw [clearAllFilters, frame_reconcile]
  exact rearmed

namespace Session

variable {session : Session} {config : Config} {d : Dimension}

/-- The mandatory dimensions are those of the configuration, whatever was done. -/
theorem Unrestricted.isMandatory_iff (run : Unrestricted config session) :
    session.dashboard.reconciler.isMandatory d = true ↔ d ∈ config.mandatoryDefaults := by
  -- The induction is on the run, and no operation touches the settings.
  induction run with
  | start started =>
    obtain ⟨now, dashboard, created, rfl⟩ := started
    obtain ⟨-, range, -, rfl⟩ := Dashboard.create_eq_ok created
    simp [start, Dashboard.opening, Reconciler.isMandatory, Reconciler.ofMandatory]
  | step _ _ before =>
    rw [Reconciler.isMandatory, (settings_step _ _).2.2.2]
    exact before

/--
Clearing all filters leaves exactly the defaults, whatever was done to the dashboard before.

The drill-down is left, and all else that is shown or known stays. A mandatory dimension with a
candidate that is not empty at the head of its list is filtered by that one, and no other dimension
is filtered. The mandatory dimensions without candidates go on waiting for a default.
-/
theorem clearAllFilters_leaves_defaults (run : Unrestricted config session) :
    ∃ after, session.dashboard.dispatch .clearAllFilters = .ok after ∧
      after.snapshot.trail = .root ∧
      after.snapshot.range = session.snapshot.range ∧
      after.snapshot.zoom = session.snapshot.zoom ∧
      after.brush = session.dashboard.brush ∧
      after.candidates = session.dashboard.candidates ∧
      ∀ d, (∀ value, after.snapshot.filters.get d = some value ↔ d ∈ config.mandatoryDefaults ∧
          value ≠ "" ∧ ∃ rest, session.dashboard.candidates.get d = some (value :: rest)) ∧
        (after.reconciler.isArmed d = true ↔ d ∈ config.mandatoryDefaults ∧
          (session.dashboard.candidates.get d = none ∨
            session.dashboard.candidates.get d = some [])) := by
  -- All parts but the filters and the latches are in the frame, which clearing keeps but for the
  -- trail.
  have frame := session.dashboard.frame_clearAllFilters
  refine ⟨_, session.dashboard.dispatch_clearAllFilters, congrArg Frame.trail frame,
    congrArg Frame.range frame, congrArg Frame.zoom frame, congrArg Frame.brush frame,
    session.dashboard.candidates_clearAllFilters, fun d => ⟨fun value => ?_, ?_⟩⟩
  · -- After the clearing all mandatory dimensions are armed and none has a value.
    rw [Dashboard.get_filters_clearAllFilters, Reconciler.valueAfter_default_eq_some_iff,
      run.isMandatory_iff]
  · rw [Dashboard.isArmed_clearAllFilters, Reconciler.latchAfter_default_iff, run.isMandatory_iff]

/-- The user has taken back the default of the metric, and has drilled down to a known region. -/
def explored : Session :=
  [.reconcile (Candidates.none.set .region ["eu", "us"]), .dispatch (.drillDown .region "eu"),
    .dispatch (.clearFilter .metricName)].foldl step listed

/-- There, clearing all filters brings back the metric that was taken back, but not the region. -/
theorem clearAllFilters_leaves_defaults_explored : Unrestricted .standard explored ∧
    explored.snapshot.filters.get .metricName = none ∧
    explored.snapshot.filters.get .region = some "eu" ∧
    ∃ after, explored.dashboard.dispatch .clearAllFilters = .ok after ∧
      after.snapshot.filters.get .metricName = some "latency" ∧
      after.snapshot.filters.get .region = none ∧
      after.reconciler.isArmed .metricName = false := by
  have before : Unrestricted .standard listed := (Run.start fresh_isStart).step trivial
  have run : Unrestricted .standard explored := before.steps (by decide)
  obtain ⟨after, dispatched, -, -, -, -, -, leaves⟩ := clearAllFilters_leaves_defaults run
  refine ⟨run, by decide, by decide, after, dispatched, ?_, ?_, ?_⟩
  · exact ((leaves .metricName).1 _).2 ⟨by decide, by decide, ["cpu"], by decide⟩
  · -- The region has candidates, but it is not mandatory.
    refine Option.eq_none_iff_forall_ne_some.2 fun value filtered => ?_
    exact absurd (((leaves .region).1 value).1 filtered).1 (by decide)
  · -- The list of the metric has candidates, so its latch has fallen.
    refine Bool.eq_false_iff.2 fun armed => ?_
    exact absurd ((leaves .metricName).2.1 armed).2 (by decide)

end Session

end Viewpoint
