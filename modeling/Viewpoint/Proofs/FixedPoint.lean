import Viewpoint.Proofs.Reconcile

/-! One reconciliation is enough: with the same lists there is nothing more to change. -/

namespace Viewpoint.Reconciler

variable {reconciler : Reconciler} {filters : Filters} {candidates : Candidates} {d : Dimension}

/-- Filters that were changed as a list asks for are not asked to change again. -/
theorem changeOf_again : (reconciler.reconcile filters candidates).2.changeOf
    ((reconciler.reconcile filters candidates).1.apply filters) candidates d = none := by
  have value : ((reconciler.reconcile filters candidates).1.apply filters).get d = _ :=
    get_apply_reconcile
  have latch : (reconciler.reconcile filters candidates).2.isArmed d = _ :=
    isArmed_reconcile filters
  rw [changeOf]
  -- Only a list with candidates could ask for a change, and such a list has disarmed its latch.
  split
  · rfl
  · rfl
  · rename_i first rest list
    rw [list] at value latch
    rcases valueAfter_candidates (reconciler.isMandatory d) (reconciler.isArmed d) first rest
        (filters.get d) with cleared | ⟨current, listed, taken⟩
    · rw [latch, value, cleared]
      simp [changeFor, latchAfter]
    · -- The value comes from the list now, so it is kept.
      rw [value, taken]
      simp [changeFor, listed]

/-- Lists that were reconciled ask for nothing more, and leave every latch as it is. -/
theorem reconcile_again (reconciler : Reconciler) (filters : Filters) (candidates : Candidates) :
    (reconciler.reconcile filters candidates).2.reconcile
        ((reconciler.reconcile filters candidates).1.apply filters) candidates =
      ([], (reconciler.reconcile filters candidates).2) := by
  refine Prod.ext (List.filterMap_eq_nil_iff.2 fun d _ => changeOf_again) ?_
  -- The reconciler consists of its mandatory dimensions, which stay, and its latches.
  refine congrArg (Reconciler.mk reconciler.mandatory) (ByDimension.ext_get fun d => ?_)
  rw [ByDimension.get_ofFn, ByDimension.get_ofFn, armedAfter_eq, armedAfter_eq, isArmed_reconcile]
  exact latchAfter_latchAfter

/--
One reconciliation settles the filters.

It changes each dimension at most once, and the dimensions in their order. A filter without
candidates stays; any other one ends up without a value or with a candidate, and keeps a value that
is one. The same lists then ask for no change and move no latch.
-/
theorem reconcile_settles (reconciler : Reconciler) (filters : Filters) (candidates : Candidates) :
    ∃ changes after, reconciler.reconcile filters candidates = (changes, after) ∧
      (changes.map Change.dimension).Nodup ∧
      (changes.map Change.dimension).Sublist Dimension.all ∧
      (∀ d, candidates.get d = none ∨ candidates.get d = some [] →
        (changes.apply filters).get d = filters.get d) ∧
      (∀ d list, candidates.get d = some list → list ≠ [] →
        (∀ value, (changes.apply filters).get d = some value → value ∈ list) ∧
          ∀ value ∈ list, filters.get d = some value →
            (changes.apply filters).get d = some value) ∧
      after.reconcile (changes.apply filters) candidates = ([], after) := by
  -- Each part is read off the value that is due for one dimension; the last is that of reconciling
  -- again.
  refine ⟨(reconciler.reconcile filters candidates).1,
    (reconciler.reconcile filters candidates).2, rfl, nodup_changes, sublist_changes,
    fun d missing => ?_, fun d list loaded filled => ?_,
    reconcile_again reconciler filters candidates⟩
  · rw [get_apply_reconcile]
    rcases missing with missing | empty
    · rw [missing, valueAfter_missing]
    · rw [empty, valueAfter]
  · rw [get_apply_reconcile, loaded]
    obtain ⟨first, rest, rfl⟩ := List.exists_cons_of_ne_nil filled
    constructor
    · -- Whatever the filter was, a value that it has now comes from the list.
      intro value settled
      rcases valueAfter_candidates (reconciler.isMandatory d) (reconciler.isArmed d) first rest
          (filters.get d) with cleared | ⟨current, listed, taken⟩
      · rw [cleared] at settled
        cases settled
      · rw [taken] at settled
        cases settled
        exact listed
    · intro value listed chosen
      rw [chosen]
      exact valueAfter_of_mem listed

end Viewpoint.Reconciler
