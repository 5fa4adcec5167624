import Viewpoint.Proofs.Events
import Viewpoint.Proofs.Trail

/-! A default comes once: it never undoes that a user has cleared the filter of its dimension. -/

namespace Viewpoint

namespace Navigator

variable {filters : Filters} {d : Dimension}

/-- Taking back a step leaves a filter that is not set. -/
theorem get_takeBack_of_none (context : ByDimension (Option String)) (crumb : Crumb)
    (unset : filters.get d = none) : (takeBack context filters crumb).get d = none := by
  -- A filter is only written where it is at the value of the step.
  rw [takeBack]
  split
  · rename_i held
    rw [Filters.get_set, if_neg, unset]
    rintro rfl
    rw [unset] at held
    cases held
  · exact unset

/-- Taking back steps leaves a filter that is not set, whatever the policy. -/
theorem get_unwind_of_none (navigator : Navigator) (kept : Trail) (removed : List Crumb)
    (unset : filters.get d = none) : (navigator.unwind kept filters removed).get d = none := by
  -- The steps are taken back one after the other.
  rw [unwind]
  split
  · exact unset
  · induction removed generalizing filters with
    | nil => exact unset
    | cons crumb rest ih => exact ih (get_takeBack_of_none kept.context crumb unset)

/-- A drill-down along another dimension, or to no value, leaves a filter that is not set. -/
theorem get_drillDown_of_none {trail : Trail} {other : Dimension} {value : String}
    {drilled : Trail × Filters} (accepted : drillDown trail filters other value = .ok drilled)
    (unset : filters.get d = none) (apart : other = d → value.isEmpty = true) :
    drilled.2.get d = none := by
  -- A drill-down to no value is refused, and any other one writes its own dimension.
  obtain ⟨filled, rfl⟩ := drillDown_eq_ok accepted
  rw [Filters.get_set, if_neg, unset]
  rintro rfl
  simp [apart rfl] at filled

end Navigator

namespace Dashboard

variable {dashboard : Dashboard} {event : Event} {proposal : Snapshot × Brush} {d : Dimension}

/-- The user selects a value of a dimension, directly or by a drill-down. -/
def selects (dashboard : Dashboard) (d : Dimension) : Event → Bool
  | .setFilter other value => other == d && (Filters.proper value).isSome
  | .drillDown other value => other == d && !value.isEmpty
  | .drillNext value =>
    dashboard.store.navigator.hierarchy.at? dashboard.snapshot.trail.level == some d &&
      !value.isEmpty
  | _ => false

/-- No event proposes a value for a filter that is not set, unless the user selects one. -/
theorem get_proposes_of_none (proposed : dashboard.proposes event = .ok proposal)
    (unset : dashboard.snapshot.filters.get d = none)
    (unselected : dashboard.selects d event = false) : proposal.1.filters.get d = none := by
  -- Filters are written by the user, by drilling down, and by taking steps back.
  cases event with
  | setTimeRange start finish | applyPreset id | setZoom min max | brush min max =>
    obtain ⟨_, _, rfl⟩ := map_eq_ok.1 proposed
    exact unset
  | setFilter other value =>
    cases proposed
    refine (Filters.get_set _ other d value).trans ?_
    split
    · rename_i own
      simpa [selects, own] using unselected
    · exact unset
  | clearFilter other =>
    cases proposed
    refine (Filters.get_set _ other d none).trans ?_
    split
    · rfl
    · exact unset
  | clearAllFilters =>
    cases proposed
    exact ByDimension.get_const _ d
  | drillDown other value =>
    obtain ⟨_, accepted, rfl⟩ := map_eq_ok.1 proposed
    -- The step may set the filter of its own dimension, which is not this one.
    refine Navigator.get_drillDown_of_none accepted unset ?_
    simpa [selects] using unselected
  | drillNext value =>
    obtain ⟨_, accepted, rfl⟩ := map_eq_ok.1 proposed
    obtain ⟨other, level, accepted⟩ := Navigator.drillNext_eq_ok accepted
    refine Navigator.get_drillDown_of_none accepted unset ?_
    rintro rfl
    simpa [selects, level] using unselected
  | drillUp level =>
    obtain ⟨_, accepted, rfl⟩ := map_eq_ok.1 proposed
    obtain ⟨_, _, _, rfl⟩ := Navigator.drillUp_eq_ok accepted
    exact Navigator.get_unwind_of_none _ _ _ unset
  | resetDrill =>
    cases proposed
    exact Navigator.get_unwind_of_none _ _ _ unset
  | clearZoom | clearBrush | optionsLoaded candidates =>
    cases proposed
    exact unset
  | applyBrush =>
    obtain rfl := Except.ok.inj proposed
    split <;> exact unset

/-- Candidates leave a filter that is not set, while its latch is disarmed. -/
theorem get_reconcile_of_none (candidates : Candidates)
    (disarmed : dashboard.reconciler.isArmed d = false)
    (unset : dashboard.snapshot.filters.get d = none) :
    (dashboard.reconcile candidates).2.snapshot.filters.get d = none := by
  -- Only an armed latch lets a list set a filter.
  rw [get_filters_reconcile, disarmed, unset]
  exact Reconciler.valueAfter_none_of_disarmed

end Dashboard

namespace Session

variable {session loaded later : Session} {operation load clear : Operation} {d : Dimension}

/-- The operation clears all filters. -/
def clearsAll : Operation → Bool
  | .dispatch .clearAllFilters => true
  | _ => false

/-- The candidates that an operation reconciles; those of an answer count when it is accepted. -/
def brings (session : Session) : Operation → Candidates
  | .dispatch event => session.dashboard.loadedBy event
  | .reconcile candidates => candidates
  | .complete fetch result => session.dashboard.brought fetch.ticket result
  | _ => .none

/-- The default of a dimension may come again: all filters are cleared, or its list is empty. -/
def rearms (session : Session) (d : Dimension) (operation : Operation) : Bool :=
  clearsAll operation || (session.brings operation).get d == some []

/-- The user selects a value of a dimension, directly or by a drill-down. -/
def selects (session : Session) (d : Dimension) : Operation → Bool
  | .dispatch event => session.dashboard.selects d event
  | _ => false

/-- The user clears the filter of a dimension. -/
def clears (d : Dimension) : Operation → Bool
  | .dispatch (.clearFilter other) => other == d
  | .dispatch (.setFilter other value) => other == d && (Filters.proper value).isNone
  | _ => false

/-- Each operation leaves the latch of a dimension as the list that it brings says. -/
theorem isArmed_step (session : Session) (operation : Operation) (d : Dimension) :
    (session.step operation).dashboard.reconciler.isArmed d =
      Reconciler.latchAfter (session.dashboard.reconciler.isMandatory d)
        (if clearsAll operation then session.dashboard.reconciler.isMandatory d
          else session.dashboard.reconciler.isArmed d) ((session.brings operation).get d) := by
  -- Only what brings candidates moves a latch, and clearing all filters arms it before that.
  have unmoved : ∀ mandatory armed,
      armed = Reconciler.latchAfter mandatory armed (Candidates.none.get d) := by
    intro mandatory armed
    rw [Candidates.get_none]
    rfl
  cases operation with
  | setClock now => exact unmoved _ _
  | register id widget =>
    refine become_of (fun later => later.dashboard.reconciler.isArmed d = _) (unmoved _ _)
      fun after registered => ?_
    obtain ⟨_, rfl⟩ := Dashboard.register_eq_ok registered
    exact unmoved _ _
  | dispatch event =>
    rw [step, Dashboard.dispatch_eq]
    cases proposed : session.dashboard.proposes event with
    | error rejection =>
      -- What loads candidates is never refused.
      cases event with
      | clearAllFilters | optionsLoaded candidates => cases proposed
      | _ => exact unmoved _ _
    | ok proposal =>
      refine Dashboard.isArmed_reconcile.trans ?_
      cases event <;> rfl
  | reconcile candidates => exact Dashboard.isArmed_reconcile
  | startPending => exact unmoved _ _
  | complete fetch result =>
    rw [step_complete_dashboard]
    exact Dashboard.isArmed_reconcile

/-- A filter that is not set stays so while its latch is disarmed and nobody selects a value. -/
theorem get_step_of_none (disarmed : session.dashboard.reconciler.isArmed d = false)
    (unset : session.snapshot.filters.get d = none) (kept : clearsAll operation = false)
    (unselected : session.selects d operation = false) :
    (session.step operation).snapshot.filters.get d = none := by
  -- Without a choice of the user only a default can set the filter, and its latch is disarmed.
  cases operation with
  | setClock now => exact unset
  | register id widget =>
    refine become_of (fun later => later.snapshot.filters.get d = none) unset
      fun after registered => ?_
    obtain ⟨_, rfl⟩ := Dashboard.register_eq_ok registered
    exact unset
  | dispatch event =>
    refine become_of (fun later => later.snapshot.filters.get d = none) unset
      fun after dispatched => ?_
    rw [Dashboard.dispatch_eq] at dispatched
    obtain ⟨proposal, proposed, rfl⟩ := map_eq_ok.1 dispatched
    refine Dashboard.get_reconcile_of_none _ ?_ ?_
    · -- Only clearing all filters arms a latch.
      cases event with
      | clearAllFilters => cases kept
      | _ => exact disarmed
    · refine (congrArg (Filters.get · d) Store.commit_filters).trans ?_
      exact Dashboard.get_proposes_of_none proposed unset unselected
  | reconcile candidates => exact Dashboard.get_reconcile_of_none _ disarmed unset
  | startPending => exact unset
  | complete fetch result =>
    rw [snapshot, step_complete_dashboard]
    exact Dashboard.get_reconcile_of_none _ disarmed unset

/-- A list with candidates disarms the latch of its dimension. -/
theorem isArmed_step_of_candidates {first : String} {rest : List String}
    (listed : (session.brings operation).get d = some (first :: rest)) :
    (session.step operation).dashboard.reconciler.isArmed d = false := by
  -- The latch is told by the list that the operation brings, and this one is not empty.
  rw [isArmed_step, listed]
  rfl

/-- A latch that is disarmed stays so until the default may come again. -/
theorem isArmed_step_of_not_rearms (disarmed : session.dashboard.reconciler.isArmed d = false)
    (kept : session.rearms d operation = false) :
    (session.step operation).dashboard.reconciler.isArmed d = false := by
  -- The list that is brought is missing or has candidates.
  obtain ⟨uncleared, filled⟩ := Bool.or_eq_false_iff.1 kept
  rw [isArmed_step, uncleared]
  cases list : (session.brings operation).get d with
  | none => exact disarmed
  | some candidates =>
    cases candidates with
    | nil => simp [list] at filled
    | cons first rest => rfl

/-- On the way to a state that is reached before the default may come again, the latch stays. -/
theorem isArmed_of_leads (disarmed : session.dashboard.reconciler.isArmed d = false)
    (reached : Leads step (fun now operation => now.rearms d operation = false) session later) :
    later.dashboard.reconciler.isArmed d = false := by
  -- The induction is on the operations that lead there.
  induction reached with
  | start same => rwa [same]
  | step _ kept before => exact isArmed_step_of_not_rearms before kept

/-- On a way where nobody selects a value and the default may not come again, none is set. -/
theorem unset_of_leads (disarmed : session.dashboard.reconciler.isArmed d = false)
    (unset : session.snapshot.filters.get d = none)
    (calm : Leads step (fun now operation =>
      now.rearms d operation = false ∧ now.selects d operation = false) session later) :
    later.dashboard.reconciler.isArmed d = false ∧ later.snapshot.filters.get d = none := by
  -- Latch and filter are carried along together, since the one guards the other.
  induction calm with
  | start same => exact ⟨by rwa [same], by rwa [same]⟩
  | step _ admitted before =>
    obtain ⟨disarmed, unset⟩ := before
    obtain ⟨kept, unselected⟩ := admitted
    have uncleared := (Bool.or_eq_false_iff.1 kept).1
    exact ⟨isArmed_step_of_not_rearms disarmed kept,
      get_step_of_none disarmed unset uncleared unselected⟩

/-- Clearing the filter of a dimension leaves it without a value, and does not arm its latch. -/
theorem step_of_clears (session : Session) (cleared : clears d operation = true) :
    (session.step operation).snapshot.filters.get d = none ∧
      session.rearms d operation = false := by
  -- There are two ways to clear a filter, and neither brings candidates.
  simp only [clears] at cleared
  split at cleared
  · rename_i other
    obtain rfl : other = d := by simpa using cleared
    refine ⟨(congrArg (Filters.get · other) Store.commit_filters).trans ?_, ?_⟩
    · exact (Filters.get_set _ other other none).trans (if_pos rfl)
    · simp [rearms, clearsAll, brings, Dashboard.loadedBy]
  · rename_i other value
    obtain ⟨rfl, empty⟩ : other = d ∧ Filters.proper value = none := by simpa using cleared
    refine ⟨(congrArg (Filters.get · other) Store.commit_filters).trans ?_, ?_⟩
    · exact (Filters.get_set _ other other value).trans ((if_pos rfl).trans empty)
    · simp [rearms, clearsAll, brings, Dashboard.loadedBy]
  · cases cleared

/--
Once candidates were used for a dimension, a user who clears its filter is not overruled.

The clearing happens before the default of the dimension may come again. After it nothing gives the
dimension a value, neither answers nor events under either policy, until the default may come again
or a user selects a value.
-/
theorem cleared_stays_unset {first : String} {rest : List String}
    (listed : (session.brings load).get d = some (first :: rest))
    (reached : Leads step (fun now operation => now.rearms d operation = false)
      (session.step load) loaded)
    (cleared : clears d clear = true)
    (calm : Leads step (fun now operation =>
      now.rearms d operation = false ∧ now.selects d operation = false)
      (loaded.step clear) later) :
    later.snapshot.filters.get d = none := by
  -- The candidates have disarmed the latch, and nothing arms it again up to the clearing.
  have disarmed : loaded.dashboard.reconciler.isArmed d = false :=
    isArmed_of_leads (isArmed_step_of_candidates listed) reached
  obtain ⟨unset, kept⟩ := step_of_clears loaded cleared
  exact (unset_of_leads (isArmed_step_of_not_rearms disarmed kept) unset calm).2

/-- The metric has its default, and the user has drilled down to a region. -/
def defaulted : Session :=
  listed.step (.dispatch (.drillDown .region "eu"))

/-- The user clears the metric. -/
def clearMetric : Operation :=
  .dispatch (.clearFilter .metricName)

/-- The candidates for the metric are loaded again, before and after a drill-up. -/
def reloads : List Operation :=
  [loadMetrics, .dispatch (.drillUp 0), loadMetrics]

/-- The metric was cleared before that. -/
def withoutMetric : Session :=
  reloads.foldl step (defaulted.step clearMetric)

/-- The metric that was the default once is not set again after the user has cleared it. -/
theorem cleared_stays_unset_metric :
    (fresh.brings loadMetrics).get .metricName = some ["latency", "cpu"] ∧
      defaulted.snapshot.filters.get .metricName = some "latency" ∧
      withoutMetric.snapshot.filters.get .metricName = none := by
  -- The run is cut at the list that sets the default and at the clearing.
  have loaded : (fresh.brings loadMetrics).get .metricName = some ["latency", "cpu"] := by decide
  have reached : Leads step (fun now operation => now.rearms .metricName operation = false)
      listed defaulted := Run.step (Run.start rfl) (by decide)
  have cleared : clears .metricName clearMetric = true := by decide
  have origin : Leads step (fun now operation =>
      now.rearms .metricName operation = false ∧ now.selects .metricName operation = false)
      (defaulted.step clearMetric) (defaulted.step clearMetric) := Run.start rfl
  exact ⟨loaded, by decide, cleared_stays_unset loaded reached cleared
    (origin.steps (by decide : AllAdmitted _ _ _ reloads))⟩

end Session

end Viewpoint
