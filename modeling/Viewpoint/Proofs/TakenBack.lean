import Viewpoint.Proofs.Unwinding

/-! Going back along a drill-down takes back what its steps wrote last, and in one case more. -/

namespace Viewpoint

namespace Trail

variable {trail : Trail} {level : Nat} {filters : Filters} {d : Dimension}

/-- One of some steps is along a dimension. -/
def Visits (crumbs : List Crumb) (d : Dimension) : Prop :=
  ∃ crumb ∈ crumbs, crumb.dimension = d

instance (crumbs : List Crumb) (d : Dimension) : Decidable (Visits crumbs d) :=
  inferInstanceAs (Decidable (∃ _ ∈ _, _))

/--
What a filter is due when a trail is left for one of its levels.

If a removed step is along its dimension, and the filter is as the trail wrote it last, then the
filter goes back to the last value that remains. Otherwise it is the user's, and stays.
-/
def due (trail : Trail) (level : Nat) (filters : Filters) (d : Dimension) : Option String :=
  if Visits (trail.crumbs.drop level) d ∧ filters.get d = trail.context.get d then
    lastValue (trail.crumbs.take level) d
  else filters.get d

/--
A filter was changed since the trail wrote it, but to the value of a removed step.

Another step has overtaken that one.
-/
def Rechosen (trail : Trail) (level : Nat) (filters : Filters) (d : Dimension) : Prop :=
  filters.get d ≠ trail.context.get d ∧ AtStep (trail.crumbs.drop level) filters d

instance (trail : Trail) (level : Nat) (filters : Filters) (d : Dimension) :
    Decidable (trail.Rechosen level filters d) :=
  inferInstanceAs (Decidable (_ ∧ _))

/-- A filter that is as the trail wrote it last is at the last removed step along its dimension. -/
theorem WellFormed.atStep (wellFormed : trail.WellFormed)
    (visits : Visits (trail.crumbs.drop level) d)
    (same : filters.get d = trail.context.get d) :
    AtStep (trail.crumbs.drop level) filters d := by
  -- The context has the value of the last of all steps, which is the last of those removed.
  rw [wellFormed.context, get_contextOf, ← List.take_append_drop level trail.crumbs] at same
  rcases lastValue_append_cases (trail.crumbs.take level) (trail.crumbs.drop level) d with
    ⟨unseen, -⟩ | ⟨crumb, member, own, last⟩
  · obtain ⟨crumb, member, own⟩ := visits
    exact absurd own (unseen crumb member)
  · exact ⟨crumb, member, own, same.trans last⟩

end Trail

namespace Navigator

open Trail (lastValue AtStep)

variable {navigator : Navigator} {trail : Trail} {filters : Filters} {d : Dimension} {level : Nat}

/-- The trails that moving along from the root leads to, with any filters at each move. -/
inductive Reaches (navigator : Navigator) : Trail → Prop where
  | root : Reaches navigator .root
  | down {trail after : Trail} {filters left : Filters} {d : Dimension} {value : String}
      (before : Reaches navigator trail)
      (accepted : drillDown trail filters d value = .ok (after, left)) : Reaches navigator after
  | next {trail after : Trail} {filters left : Filters} {value : String}
      (before : Reaches navigator trail)
      (accepted : navigator.drillNext trail filters value = .ok (after, left)) :
      Reaches navigator after
  | up {trail after : Trail} {filters left : Filters} {level : Nat}
      (before : Reaches navigator trail)
      (accepted : navigator.drillUp trail filters level = .ok (after, left)) :
      Reaches navigator after
  | reset {trail after : Trail} {filters left : Filters} (before : Reaches navigator trail)
      (accepted : navigator.reset trail filters = (after, left)) : Reaches navigator after

/-- A trail that was reached is well-formed. -/
theorem Reaches.wellFormed (reaches : navigator.Reaches trail) : trail.WellFormed := by
  -- The induction is on the moves; whatever the filters are, a move only sees the trail.
  induction reaches with
  | root => exact Trail.wellFormed_root
  | down before accepted wellFormed =>
    have moves : navigator.Moves 0 _ _ _ _ := .down accepted
    exact moves.wellFormed wellFormed
  | next before accepted wellFormed =>
    obtain ⟨d, -, accepted⟩ := drillNext_eq_ok accepted
    have moves : navigator.Moves 0 _ _ _ _ := .down accepted
    exact moves.wellFormed wellFormed
  | up before accepted wellFormed =>
    exact (Moves.up (Nat.zero_le _) accepted).wellFormed wellFormed
  | reset before accepted wellFormed =>
    -- What is left is the root, wherever the drill-down was.
    cases accepted
    exact Trail.wellFormed_root

/--
Steps that are unwound give a filter what it is due, unless it was chosen anew among their values.

Such a filter is taken for one that the trail wrote, and goes back to the last value that remains.
-/
theorem get_unwind_drop (unwinds : navigator.policy = .unwind) (wellFormed : trail.WellFormed)
    (level : Nat) (filters : Filters) (d : Dimension) :
    (navigator.unwind ⟨level, Trail.contextOf (trail.crumbs.take level), trail.crumbs.take level⟩
        filters (trail.crumbs.drop level)).get d =
      if trail.Rechosen level filters d then lastValue (trail.crumbs.take level) d
      else trail.due level filters d := by
  have filled : ∀ crumb ∈ trail.crumbs.take level, crumb.value ≠ "" := fun crumb member =>
    wellFormed.filled crumb (List.mem_of_mem_take member)
  -- The code only asks for the value of some removed step; what is due asks who wrote it last.
  rw [get_unwind unwinds filled]
  by_cases same : filters.get d = trail.context.get d
  · -- As the trail wrote it last, the filter is at a removed step exactly if there is one.
    have ordinary : ¬trail.Rechosen level filters d := fun rechosen => rechosen.1 same
    rw [if_neg ordinary, Trail.due]
    have written : AtStep (trail.crumbs.drop level) filters d ↔
        Trail.Visits (trail.crumbs.drop level) d ∧ filters.get d = trail.context.get d :=
      ⟨fun ⟨crumb, member, own, _⟩ => ⟨⟨crumb, member, own⟩, same⟩,
        fun ⟨visits, same⟩ => wellFormed.atStep visits same⟩
    simp only [written]
  · -- The filter was changed and is due to stay, but it may still be at a removed step.
    have stays : trail.due level filters d = filters.get d := if_neg fun due => same due.2
    have rechosen : trail.Rechosen level filters d ↔
        AtStep (trail.crumbs.drop level) filters d := and_iff_right same
    rw [stays]
    simp only [rechosen]

/--
Where steps are unwound, going back from any trail that can be reached gives each filter what it is
due, with one exception.

The exception is a filter that was changed back to the value of a removed step that another step
had overtaken: it goes back to the last value that remains, as if the trail had written it.
-/
theorem drillUp_gives_due (reaches : navigator.Reaches trail)
    (unwinds : navigator.policy = .unwind) (within : level ≤ trail.level) (filters : Filters) :
    ∃ kept left, navigator.drillUp trail filters level = .ok (kept, left) ∧
      (level = 0 → navigator.reset trail filters = (kept, left)) ∧
      kept.crumbs = trail.crumbs.take level ∧
      ∀ d, kept.context.get d = lastValue (trail.crumbs.take level) d ∧
        left.get d = (if trail.Rechosen level filters d then kept.context.get d
          else trail.due level filters d) ∧
        (left.get d = trail.due level filters d ↔
          (trail.Rechosen level filters d → filters.get d = kept.context.get d)) := by
  -- The level is one of the trail, so the way back is open.
  have accepted := drillUp_of_le navigator filters within
  refine ⟨_, _, accepted, ?_, rfl, fun d => ?_⟩
  · rintro rfl
    exact Except.ok.inj ((navigator.reset_eq_drillUp trail filters).symm.trans accepted)
  · have remains := Trail.get_contextOf (trail.crumbs.take level) d
    have left := get_unwind_drop unwinds reaches.wellFormed level filters d
    refine ⟨remains, left.trans (by rw [remains]), ?_⟩
    rw [left, remains]
    split
    · -- Here the filter is due to stay, which it does only if it goes back to its own value.
      rename_i rechosen
      have stays : trail.due level filters d = filters.get d := if_neg fun due => rechosen.1 due.2
      simp only [stays, rechosen, true_imp_iff, eq_comm]
    · rename_i ordinary
      exact iff_of_true rfl fun rechosen => absurd rechosen ordinary

/-- Steps are unwound along the standard levels. -/
def unwinding : Navigator :=
  ⟨.unwind, .standard⟩

/-- A drill-down to one region, and then to another one. -/
def revisited : Trail :=
  (Trail.root.push .region "eu").push .region "us"

/-- Two drill-downs lead there. -/
theorem reaches_revisited : unwinding.Reaches revisited := by
  -- Both steps are accepted, and the second one is to another region.
  have first : unwinding.Reaches (Trail.root.push .region "eu") :=
    .down .root (rfl : drillDown _ .none .region "eu" = .ok (_, _))
  exact .down first (rfl : drillDown _ .none .region "us" = .ok (_, _))

/-- There the user has filtered by a service as well. -/
def narrowed : Filters :=
  (Filters.none.set .region (some "us")).set .service (some "pay")

/-- The way back to the first region restores its filter, and leaves that of the service. -/
theorem drillUp_gives_due_revisited :
    ∃ kept left, unwinding.drillUp revisited narrowed 1 = .ok (kept, left) ∧
      left.get .region = some "eu" ∧ left.get .service = some "pay" := by
  obtain ⟨kept, left, accepted, -, -, gives⟩ :=
    drillUp_gives_due reaches_revisited rfl (by decide : 1 ≤ revisited.level) narrowed
  -- Neither of the two filters was changed back to the value of a removed step.
  have region := (gives .region).2.1.trans (if_neg (by decide))
  have service := (gives .service).2.1.trans (if_neg (by decide))
  exact ⟨kept, left, accepted, region.trans (by decide), service.trans (by decide)⟩

/-- A user who goes back to the first region by hand loses that filter when leaving the trail. -/
theorem drillUp_gives_due_rechosen :
    ¬ ∀ (navigator : Navigator) (trail : Trail), navigator.Reaches trail →
      navigator.policy = .unwind → ∀ (filters : Filters) (level : Nat), level ≤ trail.level →
        ∃ kept left, navigator.drillUp trail filters level = .ok (kept, left) ∧
          ∀ d, left.get d = trail.due level filters d := by
  -- The first region is chosen by hand while the drill-down is at the second one.
  intro always
  obtain ⟨kept, left, accepted, due⟩ := always unwinding revisited reaches_revisited rfl
    (Filters.none.set .region (some "eu")) 0 (Nat.zero_le _)
  -- The filter is not as the second step wrote it, yet it is gone.
  cases accepted
  exact absurd (due .region) (by decide)

end Navigator

end Viewpoint
