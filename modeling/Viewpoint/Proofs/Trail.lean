import Mathlib.Data.List.Chain
import Mathlib.Data.List.Induction
import Viewpoint.Proofs.Filters
import Viewpoint.Trail

/-! Trails keep their shape, and moving along them does what the steps say. -/

namespace Viewpoint

/-- Two steps differ: they go to different values, or along different dimensions. -/
def Crumb.Differs (a b : Crumb) : Prop :=
  ¬(a.dimension = b.dimension ∧ a.value = b.value)

namespace Trail

variable {trail kept : Trail} {crumbs removed : List Crumb} {d : Dimension} {value : String}
  {level : Nat}

/-- The value of the last step along a dimension. -/
def lastValue (crumbs : List Crumb) (d : Dimension) : Option String :=
  (crumbs.reverse.find? fun crumb => crumb.dimension == d).map (·.value)

/--
The shape of a trail: its steps are numbered from one, they go to values, none repeats the one
before it, and the context is theirs.
-/
structure WellFormed (trail : Trail) : Prop where
  depth : trail.crumbs.length = trail.level
  numbered : ∀ {i : Nat} {crumb : Crumb}, trail.crumbs[i]? = some crumb → crumb.level = i + 1
  filled : ∀ crumb ∈ trail.crumbs, crumb.value ≠ ""
  distinct : trail.crumbs.IsChain Crumb.Differs
  context : trail.context = contextOf trail.crumbs

/-- A further step only changes what the context has for its dimension. -/
theorem contextOf_concat (crumbs : List Crumb) (crumb : Crumb) :
    contextOf (crumbs ++ [crumb]) =
      (contextOf crumbs).set crumb.dimension (some crumb.value) :=
  -- The context is built from the first step to the last.
  List.foldl_concat _ _ _ _

/-- The context of steps has the last value of each dimension. -/
theorem get_contextOf (crumbs : List Crumb) (d : Dimension) :
    (contextOf crumbs).get d = lastValue crumbs d := by
  -- The induction adds the last step, which both sides look at first.
  induction crumbs using List.reverseRecOn with
  | nil => exact ByDimension.get_const _ d
  | append_singleton crumbs crumb ih =>
    rw [contextOf_concat, ByDimension.get_set, ih, lastValue, lastValue, List.reverse_concat,
      List.find?_cons]
    by_cases own : crumb.dimension = d
    · simp [own]
    · have passed : (crumb.dimension == d) = false := by simpa using own
      simp [passed, Ne.symm own]

/-- The trail without any step is well-formed. -/
theorem wellFormed_root : root.WellFormed where
  depth := rfl
  numbered := by simp [root]
  filled := by simp [root]
  distinct := .nil
  context := rfl

/-- A trail that does not end in a step ends in none or in one that differs from it. -/
theorem differs_of_endsAt {crumb : Crumb} (elsewhere : trail.endsAt d value = false)
    (last : crumb ∈ trail.crumbs.getLast?) : crumb.Differs ⟨d, value, level⟩ := by
  -- A last step to that value would be the end that the trail does not have.
  rintro ⟨rfl, rfl⟩
  simp [endsAt, Option.mem_def.1 last] at elsewhere

/-- A step to a value keeps a trail well-formed. -/
theorem WellFormed.push (wellFormed : trail.WellFormed) (filled : value ≠ "") :
    (trail.push d value).WellFormed := by
  -- A trail that ends in the same step is left alone.
  rw [Trail.push]
  cases again : trail.endsAt d value with
  | true => simpa using wellFormed
  | false =>
    exact {
      depth := by simp [wellFormed.depth]
      numbered := by
        intro i crumb found
        -- The new step stands where the level says that it does.
        rcases Nat.lt_or_ge i trail.crumbs.length with before | beyond
        · exact wellFormed.numbered (by simpa [List.getElem?_append_left before] using found)
        · simp only [Bool.false_eq_true, if_false, List.getElem?_append_right beyond,
            List.getElem?_singleton] at found
          split at found
          · rename_i first
            cases found
            have := wellFormed.depth
            simp only
            omega
          · cases found
      filled := by
        simpa [or_imp, forall_and, filled] using wellFormed.filled
      distinct := by
        -- Only where the new step joins the old ones is there anything to check.
        refine List.isChain_append.2 ⟨wellFormed.distinct, .singleton _, ?_⟩
        intro before last next head
        cases head
        exact differs_of_endsAt again last
      context := by
        simp [contextOf_concat, wellFormed.context] }

/-- After a step to a value a trail ends in that step. -/
theorem endsAt_push : (trail.push d value).endsAt d value = true := by
  -- The step was there already, or it has just been added.
  rw [Trail.push]
  cases again : trail.endsAt d value with
  | true => simpa using again
  | false => simp [endsAt]

/-- The same step again is no further step. -/
theorem push_push : (trail.push d value).push d value = trail.push d value :=
  -- The trail ends in the step now.
  if_pos endsAt_push

/-- Going back to a level keeps the steps up to it. -/
theorem truncate_eq_ok (back : trail.truncate level = .ok (removed, kept)) :
    level ≤ trail.level ∧ removed = trail.crumbs.drop level ∧
      kept = ⟨level, contextOf (trail.crumbs.take level), trail.crumbs.take level⟩ := by
  -- Only a level that was not reached is refused.
  simp only [truncate] at back
  split at back
  · cases back
  · rename_i within
    cases back
    exact ⟨Nat.not_lt.1 within, rfl, rfl⟩

/-- Every level up to that of a trail can be gone back to. -/
theorem truncate_of_le (within : level ≤ trail.level) :
    trail.truncate level = .ok (trail.crumbs.drop level,
      ⟨level, contextOf (trail.crumbs.take level), trail.crumbs.take level⟩) :=
  -- The level was reached, so it is not refused.
  if_neg (Nat.not_lt.2 within)

/-- Going back to a level that was gone back to removes nothing. -/
theorem truncate_truncate (back : trail.truncate level = .ok (removed, kept)) :
    kept.truncate level = .ok ([], kept) := by
  -- The steps up to the level are all that is left.
  obtain ⟨-, -, rfl⟩ := truncate_eq_ok back
  rw [truncate_of_le (Nat.le_refl level)]
  simp [List.take_take]

/-- Going back keeps a trail well-formed. -/
theorem WellFormed.truncate (wellFormed : trail.WellFormed)
    (back : trail.truncate level = .ok (removed, kept)) : kept.WellFormed := by
  -- What holds of each step and of neighbours holds of the first steps as well.
  obtain ⟨within, -, rfl⟩ := truncate_eq_ok back
  exact {
    depth := by simp [wellFormed.depth, within]
    numbered := by
      intro i crumb found
      rw [List.getElem?_take] at found
      split at found
      · exact wellFormed.numbered found
      · cases found
    filled := fun crumb member => wellFormed.filled crumb (List.mem_of_mem_take member)
    distinct := wellFormed.distinct.take level
    context := rfl }

/-- The labels are numbered from the root. -/
theorem WellFormed.labels_numbered (wellFormed : trail.WellFormed) {i : Nat} {entry : String × Nat}
    (found : trail.labels[i]? = some entry) : entry.2 = i ∧ i ≤ trail.level := by
  -- The first label is the root, and each other one is that of the step before it in the list.
  cases i with
  | zero =>
    cases found
    exact ⟨rfl, Nat.zero_le _⟩
  | succ i =>
    simp only [labels, List.getElem?_cons_succ, List.getElem?_map, Option.map_eq_some_iff] at found
    obtain ⟨crumb, found, rfl⟩ := found
    have within := (List.getElem?_eq_some_iff.1 found).1
    exact ⟨wellFormed.numbered found, wellFormed.depth ▸ within⟩

/-- Going back to a level leaves the labels up to it. -/
theorem labels_truncate (back : trail.truncate level = .ok (removed, kept)) :
    kept.labels = trail.labels.take (level + 1) := by
  -- The label of the root is kept, and one label for each step that is.
  obtain ⟨-, -, rfl⟩ := truncate_eq_ok back
  simp [labels, List.map_take]

end Trail

namespace Navigator

variable {navigator : Navigator} {trail : Trail} {filters : Filters} {d : Dimension}
  {value : String} {level : Nat} {drilled : Trail × Filters}

/-- An accepted drill-down goes to a value, adds the step, and filters by it. -/
theorem drillDown_eq_ok (accepted : drillDown trail filters d value = .ok drilled) :
    value.isEmpty = false ∧ drilled = (trail.push d value, filters.set d (some value)) := by
  -- The value is all that is checked.
  simp only [drillDown] at accepted
  split at accepted
  · cases accepted
  · rename_i filled
    cases accepted
    exact ⟨by simpa using filled, rfl⟩

/-- An accepted drill-down along the hierarchy is one along the dimension of the level. -/
theorem drillNext_eq_ok (accepted : navigator.drillNext trail filters value = .ok drilled) :
    ∃ d, navigator.hierarchy.at? trail.level = some d ∧
      drillDown trail filters d value = .ok drilled := by
  -- A level that the hierarchy does not have is refused.
  simp only [drillNext] at accepted
  split at accepted
  · cases accepted
  · rename_i d next
    exact ⟨d, next, accepted⟩

/-- To take back no step leaves the filters. -/
theorem unwind_nil : navigator.unwind trail filters [] = filters := by
  -- Either policy has nothing to do.
  rw [unwind]
  split <;> rfl

/-- An accepted way back keeps what the level leaves, and takes back the other steps. -/
theorem drillUp_eq_ok (accepted : navigator.drillUp trail filters level = .ok drilled) :
    ∃ removed kept, trail.truncate level = .ok (removed, kept) ∧
      drilled = (kept, navigator.unwind kept filters removed) := by
  -- The trail is cut first, and the filters follow it.
  rw [drillUp] at accepted
  cases back : trail.truncate level with
  | error rejection => simp [back, Except.map] at accepted
  | ok parts =>
    simp only [back, Except.map, Except.ok.injEq] at accepted
    exact ⟨parts.1, parts.2, rfl, accepted.symm⟩

/-- The way back to a level of the trail is accepted, and takes back the steps below the level. -/
theorem drillUp_of_le (navigator : Navigator) (filters : Filters) (within : level ≤ trail.level) :
    navigator.drillUp trail filters level =
      .ok (⟨level, Trail.contextOf (trail.crumbs.take level), trail.crumbs.take level⟩,
        navigator.unwind
          ⟨level, Trail.contextOf (trail.crumbs.take level), trail.crumbs.take level⟩ filters
          (trail.crumbs.drop level)) := by
  -- The trail can be cut at the level.
  rw [drillUp, Trail.truncate_of_le within]
  rfl

/-- The same drill-down again leads to the same place. -/
theorem drillDown_drillDown (accepted : drillDown trail filters d value = .ok drilled) :
    drillDown drilled.1 drilled.2 d value = .ok drilled := by
  -- Neither the trail nor the filter changes a second time.
  obtain ⟨filled, rfl⟩ := drillDown_eq_ok accepted
  simp [drillDown, filled, Trail.push_push, Filters.set_set]

/-- The same way back again leads to the same place. -/
theorem drillUp_drillUp (accepted : navigator.drillUp trail filters level = .ok drilled) :
    navigator.drillUp drilled.1 drilled.2 level = .ok drilled := by
  -- Nothing is removed a second time, so no filter is taken back.
  obtain ⟨removed, kept, back, rfl⟩ := drillUp_eq_ok accepted
  simp [drillUp, Trail.truncate_truncate back, Except.map, unwind_nil]

/-- Taking back steps leaves no filter with the empty text. -/
theorem filled_unwind (filled : filters.Filled) (removed : List Crumb) :
    (navigator.unwind trail filters removed).Filled := by
  -- Each step leaves the filters or sets one of them.
  rw [unwind]
  split
  · exact filled
  · induction removed generalizing filters with
    | nil => exact filled
    | cons crumb rest ih =>
      refine ih ?_
      rw [takeBack]
      split
      · exact filled.set _ _
      · exact filled

/-- A drill-down keeps a trail well-formed, and no filter has the empty text after it. -/
theorem wellFormed_drillDown (wellFormed : trail.WellFormed) (filled : filters.Filled)
    (accepted : drillDown trail filters d value = .ok drilled) :
    drilled.1.WellFormed ∧ drilled.2.Filled := by
  -- The value was checked not to be empty.
  obtain ⟨proper, rfl⟩ := drillDown_eq_ok accepted
  refine ⟨wellFormed.push ?_, filled.set _ _⟩
  rintro rfl
  cases proper

/-- A drill-down along the hierarchy keeps a trail well-formed as well. -/
theorem wellFormed_drillNext (wellFormed : trail.WellFormed) (filled : filters.Filled)
    (accepted : navigator.drillNext trail filters value = .ok drilled) :
    drilled.1.WellFormed ∧ drilled.2.Filled := by
  -- The step along the hierarchy is an ordinary one.
  obtain ⟨d, -, accepted⟩ := drillNext_eq_ok accepted
  exact wellFormed_drillDown wellFormed filled accepted

/-- Going back keeps a trail well-formed, and no filter has the empty text after it. -/
theorem wellFormed_drillUp (wellFormed : trail.WellFormed) (filled : filters.Filled)
    (accepted : navigator.drillUp trail filters level = .ok drilled) :
    drilled.1.WellFormed ∧ drilled.2.Filled := by
  -- The first steps stay in shape, and filters only get values of steps.
  obtain ⟨removed, kept, back, rfl⟩ := drillUp_eq_ok accepted
  exact ⟨wellFormed.truncate back, filled_unwind filled removed⟩

/-- Every level up to that of a trail can be gone back to, which leaves the labels up to it. -/
theorem labels_drillUp (navigator : Navigator) (filters : Filters) (within : level ≤ trail.level) :
    ∃ drilled, navigator.drillUp trail filters level = .ok drilled ∧
      drilled.1.labels = trail.labels.take (level + 1) :=
  -- The way back is accepted, and its trail is the one that was cut.
  ⟨_, drillUp_of_le navigator filters within,
    Trail.labels_truncate (Trail.truncate_of_le within)⟩

end Navigator

end Viewpoint
