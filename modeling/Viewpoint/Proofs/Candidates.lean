import Viewpoint.Proofs.Reconcile
import Viewpoint.Proofs.Session
import Viewpoint.Proofs.Store

/-! What candidates do to a dashboard, whether an event loads them or the answer to a fetch. -/

namespace Viewpoint

namespace Dashboard

variable {dashboard after : Dashboard} {candidates : Candidates} {d : Dimension}

/-- The changes that candidates ask for are applied to the store as one transition. -/
theorem reconcile_store : (dashboard.reconcile candidates).2.store =
    dashboard.store.applyReconciliation
      (dashboard.reconciler.reconcile dashboard.snapshot.filters candidates).1 := by
  -- Without any change the transition would show what the store shows already.
  change (if (dashboard.reconciler.reconcile dashboard.snapshot.filters candidates).1.isEmpty then
    dashboard.store else _) = _
  split
  · rename_i unchanged
    rw [List.isEmpty_iff.1 unchanged]
    exact (Store.commit_of_sameState (by simp [Snapshot.sameState_iff, Snapshot.withFilters,
      Reconciliation.apply])).symm
  · rfl

/-- Candidates leave the filters that the changes they ask for lead to. -/
theorem filters_reconcile : (dashboard.reconcile candidates).2.snapshot.filters =
    (dashboard.reconciler.reconcile dashboard.snapshot.filters candidates).1.apply
      dashboard.snapshot.filters := by
  -- The store commits the filters to which the changes lead.
  rw [snapshot, reconcile_store, Store.applyReconciliation, Store.commit_filters]
  rfl

/-- Candidates leave each filter with the value that is due. -/
theorem get_filters_reconcile : (dashboard.reconcile candidates).2.snapshot.filters.get d =
    Reconciler.valueAfter (dashboard.reconciler.isMandatory d) (dashboard.reconciler.isArmed d)
      (candidates.get d) (dashboard.snapshot.filters.get d) := by
  -- What becomes of one filter is told by its own list and latch.
  rw [filters_reconcile]
  exact Reconciler.get_apply_reconcile

/-- A reconciliation commits the filters that it leaves. -/
theorem reconcile_commits : (dashboard.reconcile candidates).2.store = dashboard.store.commit
    (dashboard.snapshot.withFilters (dashboard.reconcile candidates).2.snapshot.filters) := by
  -- A commit of what is shown already changes nothing, so this also holds if nothing is asked for.
  rw [reconcile_store, filters_reconcile]
  rfl

/-- Candidates that ask for nothing are taken over, and the widgets notice what is shown. -/
theorem reconcile_of_settled
    (settled : dashboard.reconciler.reconcile dashboard.snapshot.filters candidates =
      ([], dashboard.reconciler)) :
    (dashboard.reconcile candidates).2 =
      { dashboard with candidates := dashboard.candidates.merge candidates }.observeAll := by
  -- Without changes, no latch moves and nothing is committed.
  simp only [reconcile, settled, List.isEmpty_nil, if_true]

/-- Candidates count as one revision if they move a filter, and as none otherwise. -/
theorem revision_reconcile : (dashboard.reconcile candidates).2.snapshot.revision =
    dashboard.snapshot.revision +
      if (dashboard.reconcile candidates).2.snapshot.filters = dashboard.snapshot.filters then 0
      else 1 := by
  obtain ⟨filters, committed⟩ : ∃ filters, (dashboard.reconcile candidates).2.store =
      dashboard.store.commit (dashboard.snapshot.withFilters filters) := ⟨_, reconcile_commits⟩
  -- Only the filters of what is committed can be new.
  have news : (dashboard.snapshot.withFilters filters).sameState dashboard.snapshot = true ↔
      filters = dashboard.snapshot.filters := by
    simp [Snapshot.sameState_iff, Snapshot.withFilters]
  simp only [snapshot, committed, Store.commit_revision, Store.commit_filters] at news ⊢
  simp only [news]
  rfl

/-- Candidates leave the drill-down. -/
theorem trail_reconcile :
    (dashboard.reconcile candidates).2.snapshot.trail = dashboard.snapshot.trail := by
  -- Only the filters of what is shown are replaced.
  rw [snapshot, reconcile_commits, Store.commit_trail]
  rfl

/-- Candidates leave each latch as its own list says. -/
theorem isArmed_reconcile : (dashboard.reconcile candidates).2.reconciler.isArmed d =
    Reconciler.latchAfter (dashboard.reconciler.isMandatory d) (dashboard.reconciler.isArmed d)
      (candidates.get d) :=
  -- The dashboard takes the latches over from the reconciler.
  Reconciler.isArmed_reconcile dashboard.snapshot.filters

/-- Candidates do not change which dimensions are mandatory. -/
theorem isMandatory_reconcile :
    (dashboard.reconcile candidates).2.reconciler.isMandatory d =
      dashboard.reconciler.isMandatory d :=
  rfl

/-- The candidates that the answer to a fetch brings: those that an accepted response has. -/
def brought (dashboard : Dashboard) (ticket : Ticket) (result : Except FetchFailure Response) :
    Candidates :=
  match dashboard.slots.get? ticket.widget with
  | none => .none
  | some slot =>
    match (slot.tracker.settle ticket result).1 with
    | .ready data => (freshCandidates slot.widget data).getD .none
    | _ => .none

/-- A refused answer brings nothing. -/
theorem brought_of_error {ticket : Ticket} {result : Except FetchFailure Response}
    {rejection : Rejection} (refused : dashboard.complete ticket result = .error rejection) :
    dashboard.brought ticket result = .none := by
  -- A completion is refused only where no widget is found.
  cases found : dashboard.slots.get? ticket.widget with
  | none => simp only [brought, found]
  | some slot =>
    simp only [complete, found] at refused
    split at refused
    · split at refused <;> cases refused
    · cases refused
    · cases refused

/-- Without candidates, a reconciliation changes nothing but what the slots notice. -/
theorem reconcile_none (slots : Slots) :
    { (dashboard.reconcile .none).2 with slots } = { dashboard with slots } := by
  -- No list is loaded, so nothing is asked for, and no list known before is replaced.
  rw [reconcile_of_settled (Reconciler.reconcile_none _ _), Candidates.merge_none]
  rfl

/--
Taking the answer to a fetch is to reconcile the candidates that it brings, but for the slots of
widgets.
-/
theorem complete_eq_ok {ticket : Ticket} {result : Except FetchFailure Response}
    {completion : Completion Reconciliation}
    (completed : dashboard.complete ticket result = .ok (completion, after)) :
    after = { (dashboard.reconcile (dashboard.brought ticket result)).2 with
      slots := after.slots } := by
  -- The branches of a completion are those in which candidates are brought or not.
  cases found : dashboard.slots.get? ticket.widget with
  | none =>
    simp only [complete, found] at completed
    cases completed
  | some slot =>
    simp only [complete, found] at completed
    simp only [brought, found]
    cases settled : (slot.tracker.settle ticket result).1 with
    | ready data =>
      cases fresh : freshCandidates slot.widget data with
      | some candidates =>
        simp only [settled, fresh] at completed ⊢
        cases completed
        rfl
      | none =>
        simp only [settled, fresh] at completed ⊢
        cases completed
        simp only [Option.getD_none, reconcile_none]
    | failed | discarded =>
      simp only [settled] at completed ⊢
      cases completed
      simp only [reconcile_none]

end Dashboard

/-- Completing a fetch reconciles what its answer brings, and besides changes only slots. -/
theorem Session.step_complete_dashboard (session : Session) (fetch : PendingFetch)
    (result : Except FetchFailure Response) :
    (session.step (.complete fetch result)).dashboard =
      { (session.dashboard.reconcile (session.dashboard.brought fetch.ticket result)).2 with
        slots := (session.step (.complete fetch result)).dashboard.slots } := by
  -- A completion is refused for an unknown widget only, and then it brings nothing.
  cases completed : session.dashboard.complete fetch.ticket result with
  | ok outcome =>
    simp only [step, completed, land]
    exact Dashboard.complete_eq_ok completed
  | error rejection =>
    simp only [step, completed, Dashboard.brought_of_error completed, Dashboard.reconcile_none]

end Viewpoint
