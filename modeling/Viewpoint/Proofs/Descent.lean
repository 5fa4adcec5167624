import Viewpoint.Proofs.TakenBack
import Viewpoint.Proofs.Validation

/-! Drilling into the next level goes one level deeper, unless that repeats the last step. -/

namespace Viewpoint

namespace Trail

variable {trail : Trail} {d : Dimension} {value : String}

/-- A trail ends at a value exactly if its last step is to it. -/
theorem endsAt_iff : trail.endsAt d value = true ↔
    ∃ crumb ∈ trail.crumbs.getLast?, crumb.dimension = d ∧ crumb.value = value := by
  -- There is at most one last step to compare.
  rw [endsAt]
  cases trail.crumbs.getLast? <;> simp

/-- The last step of a trail in shape has the number of its level. -/
theorem WellFormed.level_of_last (wellFormed : trail.WellFormed) {crumb : Crumb}
    (last : crumb ∈ trail.crumbs.getLast?) : 0 < trail.level ∧ crumb.level = trail.level := by
  -- Steps are numbered from one on, and there are as many as the level says.
  rw [List.getLast?_eq_getElem?, Option.mem_def] at last
  have inside := (List.getElem?_eq_some_iff.1 last).1
  have numbered := wellFormed.numbered last
  rw [← wellFormed.depth]
  omega

end Trail

namespace Navigator

variable {navigator : Navigator} {trail after : Trail} {filters left : Filters} {value : String}

/-- A trail goes on with one step, to a value of the dimension that the levels have next. -/
def Deepens (navigator : Navigator) (trail : Trail) (value : String) (after : Trail) : Prop :=
  after.level = trail.level + 1 ∧ ∃ d, navigator.hierarchy.at? trail.level = some d ∧
    after.crumbs = trail.crumbs ++ [⟨d, value, trail.level + 1⟩]

/-- The last step of a trail is to that value already, along the dimension that comes next. -/
def Repeats (navigator : Navigator) (trail : Trail) (value : String) : Prop :=
  ∃ crumb ∈ trail.crumbs.getLast?,
    navigator.hierarchy.at? trail.level = some crumb.dimension ∧ crumb.value = value

/-- A last step along the dimension of its own level is not repeated, as levels are distinct. -/
theorem not_repeats_of_own_level (wellFormed : trail.WellFormed)
    (distinct : navigator.hierarchy.levels.Nodup)
    (own : ∀ crumb ∈ trail.crumbs.getLast?,
      navigator.hierarchy.at? (crumb.level - 1) = some crumb.dimension) :
    ¬ navigator.Repeats trail value := by
  rintro ⟨crumb, last, next, -⟩
  obtain ⟨deep, numbered⟩ := wellFormed.level_of_last last
  have here := own crumb last
  -- One dimension would be that of two levels in a row.
  obtain ⟨inside, _⟩ := List.getElem?_eq_some_iff.1 next
  have same := (List.getElem?_inj (by omega) distinct).1 (here.trans next.symm)
  omega

/--
Drilling into the next level from any trail that can be reached goes one level deeper, with one
exception: where the last step is along the dimension of the next level already, and to the same
value, the trail stays as it is.

A last step along the dimension of its own level is never the exception.
-/
theorem drillNext_deepens (reaches : navigator.Reaches trail)
    (valid : Config.hierarchyFault? navigator.hierarchy = none)
    (accepted : navigator.drillNext trail filters value = .ok (after, left)) :
    (¬ navigator.Repeats trail value → navigator.Deepens trail value after) ∧
      (navigator.Repeats trail value → after = trail) ∧
      ((∀ crumb ∈ trail.crumbs.getLast?,
          navigator.hierarchy.at? (crumb.level - 1) = some crumb.dimension) →
        ¬ navigator.Repeats trail value) := by
  obtain ⟨d, next, accepted⟩ := drillNext_eq_ok accepted
  obtain ⟨-, pushed⟩ := drillDown_eq_ok accepted
  -- A step is left out where the trail ends in it, which is what it means to repeat the last step.
  have repeats : navigator.Repeats trail value ↔ trail.endsAt d value = true := by
    rw [Trail.endsAt_iff, Repeats, next]
    simp only [Option.some.injEq, eq_comm]
  refine ⟨fun new => ?_, fun again => ?_,
    not_repeats_of_own_level reaches.wellFormed (Config.hierarchyFault?_eq_none_iff.1 valid).2⟩
  · cases pushed
    rw [Deepens, Trail.push, if_neg (repeats.not.1 new)]
    exact ⟨rfl, d, next, rfl⟩
  · cases pushed
    exact if_pos (repeats.1 again)

/-- The standard levels, along which filters stay when steps are taken back. -/
def standing : Navigator :=
  ⟨.sticky, .standard⟩

/-- A drill-down to an endpoint, which is a level that comes second. -/
def toEndpoint : Trail :=
  Trail.root.push .endpoint "/pay"

/-- One drill-down leads there. -/
theorem reaches_toEndpoint : standing.Reaches toEndpoint :=
  -- The drill-down is accepted, and leads to this trail.
  .down .root (rfl : drillDown _ .none .endpoint "/pay" = .ok (_, _))

/-- The next level can be drilled into at another endpoint, which is one level deeper. -/
theorem drillNext_deepens_refund : standing.Reaches toEndpoint ∧
    Config.hierarchyFault? standing.hierarchy = none ∧
    ∃ after left, standing.drillNext toEndpoint .none "/refund" = .ok (after, left) ∧
      standing.Deepens toEndpoint "/refund" after := by
  -- The last step is to another endpoint, so the step does not repeat it.
  have accepted : standing.drillNext toEndpoint .none "/refund" = .ok (_, _) := rfl
  have other : ¬ standing.Repeats toEndpoint "/refund" := by
    rintro ⟨crumb, last, -, value⟩
    cases last
    exact absurd value (by decide)
  exact ⟨reaches_toEndpoint, rfl, _, _, accepted,
    (drillNext_deepens reaches_toEndpoint rfl accepted).1 other⟩

/-- To drill into the endpoint of the last step once more is accepted, and leads no deeper. -/
theorem drillNext_deepens_repeated :
    ¬ ∀ (navigator : Navigator) (trail : Trail) (filters : Filters) (value : String) after left,
      Config.hierarchyFault? navigator.hierarchy = none → navigator.Reaches trail →
        navigator.drillNext trail filters value = .ok (after, left) →
          navigator.Deepens trail value after := by
  -- The trail is as before, though the drill-down was accepted.
  intro always
  have deeper := always standing toEndpoint .none "/pay" _ _ rfl reaches_toEndpoint rfl
  exact absurd deeper.1 (by decide)

end Navigator

end Viewpoint
