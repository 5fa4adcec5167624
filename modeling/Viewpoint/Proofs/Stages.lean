import Viewpoint.Proofs.TakenBack

/-! Going back along a drill-down in stages leads to the same place as going back at once. -/

namespace Viewpoint

namespace Trail

variable {crumbs middle removed : List Crumb} {a b : Filters} {d : Dimension}

/-- Whether a filter is at the value of a step depends on no other filter. -/
theorem atStep_congr (same : a.get d = b.get d) : AtStep crumbs a d ↔ AtStep crumbs b d := by
  -- Only the filter of this dimension is compared with the steps.
  simp only [AtStep, same]

/-- A filter at the value of one of some steps is at one of the earlier or of the later ones. -/
theorem atStep_append {filters : Filters} :
    AtStep (middle ++ removed) filters d ↔ AtStep middle filters d ∨ AtStep removed filters d := by
  -- A step is one of the earlier or one of the later ones.
  simp only [AtStep, List.mem_append, or_and_right, exists_or]

end Trail

namespace Navigator

open Trail (lastValue AtStep)

variable {navigator : Navigator} {trail : Trail} {near far : Nat} {crumbs middle : List Crumb}

/--
To unwind the last steps, and then those before them, is to unwind all of them at once.

Where the first stage gives a filter back, the second one finds it at the last of its own steps
along the dimension, or has no such step.
-/
theorem unwind_append (navigator : Navigator) (near far : Nat)
    (filled : ∀ crumb ∈ crumbs ++ middle, crumb.value ≠ "") (removed : List Crumb)
    (filters : Filters) :
    navigator.unwind ⟨far, Trail.contextOf crumbs, crumbs⟩
        (navigator.unwind ⟨near, Trail.contextOf (crumbs ++ middle), crumbs ++ middle⟩ filters
          removed) middle =
      navigator.unwind ⟨far, Trail.contextOf crumbs, crumbs⟩ filters (middle ++ removed) := by
  cases policy : navigator.policy with
  | sticky => simp only [unwind, policy]
  | unwind =>
    have outermost : ∀ crumb ∈ crumbs, crumb.value ≠ "" :=
      fun crumb member => filled crumb (List.mem_append_left _ member)
    ext1 d
    -- The second stage sees no more of the first one than the filter that it leaves.
    have left : (navigator.unwind ⟨near, Trail.contextOf (crumbs ++ middle), crumbs ++ middle⟩
        filters removed).get d = _ := get_unwind policy filled removed filters d
    simp only [get_unwind policy outermost, Trail.atStep_append]
    by_cases taken : AtStep removed filters d
    · rw [if_pos taken] at left
      simp only [left, taken, or_true, if_true]
      rcases Trail.lastValue_append_cases crumbs middle d with
        ⟨-, last⟩ | ⟨crumb, member, own, last⟩
      · -- None of its own steps is along the dimension, so it finds what is due already.
        rw [last, ite_self]
      · -- The filter is at one of its own steps, which it takes back.
        exact if_pos ⟨crumb, member, own, left.trans last⟩
    · -- The first stage leaves the filter, so it is up to the second one.
      rw [if_neg taken] at left
      simp only [taken, or_false, Trail.atStep_congr left, left]

/--
Going back to a level, and from there to an earlier one, is going back to the earlier one at once.

So it is with either policy and whatever was done to the filters. To leave the drill-down is to go
back to its root.
-/
theorem drillUp_drillUp_of_le (reaches : navigator.Reaches trail) (filters : Filters)
    (farther : far ≤ near) (within : near ≤ trail.level) :
    ∃ midway back, navigator.drillUp trail filters near = .ok midway ∧
      navigator.drillUp midway.1 midway.2 far = .ok back ∧
      navigator.drillUp trail filters far = .ok back ∧
      navigator.drillUp trail filters 0 = .ok (navigator.reset trail filters) := by
  have wellFormed := reaches.wellFormed
  obtain ⟨kept, removed, split, depth⟩ :
      ∃ kept removed, trail.crumbs = kept ++ removed ∧ kept.length = near :=
    ⟨_, _, (List.take_append_drop near _).symm, by simp [wellFormed.depth, within]⟩
  have filled : ∀ crumb ∈ kept.take far ++ kept.drop far, crumb.value ≠ "" := by
    intro crumb member
    rw [List.take_append_drop] at member
    exact wellFormed.filled crumb (split ▸ List.mem_append_left _ member)
  -- The way back to each of the levels is open, and what it keeps is known.
  have first := drillUp_of_le navigator filters within
  have atOnce := drillUp_of_le navigator filters (Nat.le_trans farther within)
  have second (left : Filters) :
      navigator.drillUp ⟨near, Trail.contextOf kept, kept⟩ left far = .ok _ :=
    drillUp_of_le navigator left farther
  subst depth
  rw [split, List.take_left, List.drop_left] at first
  rw [split, List.take_append_of_le_length farther, List.drop_append_of_le_length farther] at atOnce
  refine ⟨_, _, first, second _, ?_, navigator.reset_eq_drillUp trail filters⟩
  -- The same steps remain, so only the filters have to be compared.
  have stages := navigator.unwind_append kept.length far filled removed filters
  rw [List.take_append_drop] at stages
  rw [atOnce, stages]

/-- In two stages, the filter of the region first goes back to the first one, then is cleared. -/
theorem drillUp_drillUp_of_le_revisited :
    ∃ midway back, unwinding.drillUp revisited narrowed 1 = .ok midway ∧
      midway.2.get .region = some "eu" ∧
      unwinding.drillUp midway.1 midway.2 0 = .ok back ∧
      unwinding.reset revisited narrowed = back ∧
      back.2.get .region = none ∧ back.2.get .service = some "pay" := by
  -- The two stages are the general result at the levels one and zero.
  obtain ⟨midway, back, first, second, atOnce, reset⟩ := drillUp_drillUp_of_le reaches_revisited
    narrowed (Nat.zero_le 1) (by decide : 1 ≤ revisited.level)
  obtain rfl := Except.ok.inj (atOnce.symm.trans reset)
  cases first
  exact ⟨_, _, rfl, by decide, second, rfl, by decide, by decide⟩

end Navigator

end Viewpoint
