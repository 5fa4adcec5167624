import Viewpoint.Proofs.Session
import Viewpoint.Proofs.Trail
import Viewpoint.Proofs.Transitions

/-! Where steps of a drill-down are unwound, the filters follow its trail. -/

namespace Viewpoint

namespace Trail

variable {trail kept : Trail} {crumbs removed : List Crumb} {d : Dimension} {value : String}
  {level : Nat}

/-- A filter has the value of one of some steps along its dimension. -/
def AtStep (crumbs : List Crumb) (filters : Filters) (d : Dimension) : Prop :=
  ∃ crumb ∈ crumbs, crumb.dimension = d ∧ filters.get d = some crumb.value

instance (crumbs : List Crumb) (filters : Filters) (d : Dimension) :
    Decidable (AtStep crumbs filters d) :=
  inferInstanceAs (Decidable (∃ _ ∈ _, _))

/-- The last of some steps decides, if they have one along the dimension. -/
theorem lastValue_append (crumbs removed : List Crumb) (d : Dimension) :
    lastValue (crumbs ++ removed) d = (lastValue removed d).or (lastValue crumbs d) := by
  -- The search goes through the later steps first.
  simp only [lastValue, List.reverse_append, List.find?_append]
  cases removed.reverse.find? fun crumb => crumb.dimension == d <;> rfl

/-- A last value is the value of one of the steps. -/
theorem exists_of_lastValue (last : lastValue crumbs d = some value) :
    ∃ crumb ∈ crumbs, crumb.dimension = d ∧ crumb.value = value := by
  obtain ⟨crumb, found, rfl⟩ := Option.map_eq_some_iff.1 last
  -- What the search finds is a step along the dimension.
  have own := List.find?_some found
  exact ⟨crumb, List.mem_reverse.1 (List.mem_of_find?_eq_some found), by simpa using own, rfl⟩

/-- The last value is that of one of the later steps, unless none of them is along the dimension. -/
theorem lastValue_append_cases (crumbs removed : List Crumb) (d : Dimension) :
    ((∀ crumb ∈ removed, crumb.dimension ≠ d) ∧
        lastValue (crumbs ++ removed) d = lastValue crumbs d) ∨
      ∃ crumb ∈ removed, crumb.dimension = d ∧
        lastValue (crumbs ++ removed) d = some crumb.value := by
  rw [lastValue_append]
  cases last : lastValue removed d with
  | none =>
    -- The search has passed all of the later steps.
    have passed := List.find?_eq_none.1 (Option.map_eq_none_iff.1 last)
    exact .inl ⟨fun crumb member => by simpa using passed crumb (List.mem_reverse.2 member), rfl⟩
  | some value =>
    obtain ⟨crumb, member, own, rfl⟩ := exists_of_lastValue last
    exact .inr ⟨crumb, member, own, rfl⟩

/-- After a step to a value it is the one of its dimension, even if the step was there already. -/
theorem WellFormed.get_context_push (wellFormed : trail.WellFormed) (d other : Dimension)
    (value : String) :
    (trail.push d value).context.get other =
      if other = d then some value else trail.context.get other := by
  rw [Trail.push]
  cases again : trail.endsAt d value with
  | false => simp [ByDimension.get_set]
  | true =>
    simp only [if_true]
    split
    · -- The trail ends in a step to the value, which is the last one along its dimension.
      rename_i own
      obtain ⟨crumb, last, same⟩ : ∃ crumb, trail.crumbs.getLast? = some crumb ∧
          (crumb.dimension = d ∧ crumb.value = value) := by
        simpa [endsAt, Option.any_eq_true] using again
      obtain ⟨before, crumbs⟩ := List.getLast?_eq_some_iff.1 last
      rw [wellFormed.context, get_contextOf, crumbs, lastValue_append]
      simp [lastValue, same, own]
    · rfl

/-- The context of a trail has no value that is the empty text. -/
theorem context_ne_empty (filled : ∀ crumb ∈ crumbs, crumb.value ≠ "") (d : Dimension) :
    (contextOf crumbs).get d ≠ some "" := by
  -- Each value of the context is the value of a step.
  rw [get_contextOf]
  intro last
  obtain ⟨crumb, member, -, empty⟩ := exists_of_lastValue last
  exact filled crumb member empty

/-- A trail that goes on from another one leads back to it. -/
theorem WellFormed.truncate_of_prefix {deeper : Trail} (wellFormed : trail.WellFormed)
    (deeperFormed : deeper.WellFormed) (goesOn : trail.crumbs <+: deeper.crumbs) :
    deeper.truncate trail.level = .ok (deeper.crumbs.drop trail.level, trail) := by
  -- The steps up to the level are those of the earlier trail, which has their context.
  have within : trail.level ≤ deeper.level := by
    rw [← wellFormed.depth, ← deeperFormed.depth]
    exact goesOn.length_le
  have kept : deeper.crumbs.take trail.level = trail.crumbs := by
    rw [← wellFormed.depth]
    exact (List.prefix_iff_eq_take.1 goesOn).symm
  rw [truncate_of_le within, kept, ← wellFormed.context]

end Trail

namespace Navigator

variable {navigator : Navigator} {trail : Trail} {filters : Filters} {d : Dimension}
  {level : Nat} {drilled : Trail × Filters} {crumbs removed : List Crumb}

/-- Taking back a step touches the filter of its dimension, and only while it has its value. -/
theorem get_takeBack (context : ByDimension (Option String)) (filters : Filters) (crumb : Crumb)
    (d : Dimension) : (takeBack context filters crumb).get d =
      if crumb.dimension = d ∧ filters.get d = some crumb.value then
        Filters.proper (context.get d) else filters.get d := by
  rw [takeBack]
  by_cases own : crumb.dimension = d
  · subst own
    split <;> simp_all [Filters.get_set]
  · -- A step along another dimension is not seen here, whether it is taken back or not.
    split <;> simp [Filters.get_set, own, Ne.symm own]

/--
Taking back steps gives a dimension the value of the context if one of the steps has set its filter.

Once the filter is at the value of the context, later steps find it there or leave it.
-/
theorem get_foldl_takeBack (context : ByDimension (Option String)) (removed : List Crumb)
    (filters : Filters) (d : Dimension) : (removed.foldl (takeBack context) filters).get d =
      if ∃ crumb ∈ removed, crumb.dimension = d ∧ filters.get d = some crumb.value then
        Filters.proper (context.get d) else filters.get d := by
  -- The induction is on the removed steps, the oldest first, for any filters.
  induction removed generalizing filters with
  | nil => simp
  | cons crumb rest ih =>
    rw [List.foldl_cons, ih, get_takeBack]
    by_cases taken : crumb.dimension = d ∧ filters.get d = some crumb.value
    · simp [taken]
    · simp only [taken, if_false, List.exists_mem_cons_iff, false_or]

/-- Leaving a drill-down is to go back to its first level. -/
theorem reset_eq_drillUp (navigator : Navigator) (trail : Trail) (filters : Filters) :
    navigator.drillUp trail filters 0 = .ok (navigator.reset trail filters) := by
  -- All steps are removed, and what remains is the root.
  rw [drillUp_of_le navigator filters (Nat.zero_le _), List.drop_zero, List.take_zero]
  rfl

/-- To unwind steps gives a filter that is at the value of one of them the last value that stays. -/
theorem get_unwind (unwinds : navigator.policy = .unwind)
    (filled : ∀ crumb ∈ crumbs, crumb.value ≠ "") (removed : List Crumb) (filters : Filters)
    (d : Dimension) :
    (navigator.unwind ⟨level, Trail.contextOf crumbs, crumbs⟩ filters removed).get d =
      if Trail.AtStep removed filters d then Trail.lastValue crumbs d else filters.get d := by
  -- The removed steps are taken back one by one, and each sets a filter at its value to what the
  -- remaining trail has.
  simp only [unwind, unwinds, get_foldl_takeBack]
  rw [Filters.proper_of_filled (Trail.context_ne_empty filled d), Trail.get_contextOf]
  rfl

/--
Where filters follow all steps, they follow those that remain once the others were unwound.

The last removed step along a dimension has set its filter, so its filter is taken back.
-/
theorem get_unwind_of_follows (unwinds : navigator.policy = .unwind)
    (filled : ∀ crumb ∈ crumbs, crumb.value ≠ "")
    (follows : filters.get d = Trail.lastValue (crumbs ++ removed) d) :
    (navigator.unwind ⟨level, Trail.contextOf crumbs, crumbs⟩ filters removed).get d =
      (Trail.contextOf crumbs).get d := by
  rw [get_unwind unwinds filled, Trail.get_contextOf]
  split
  · rfl
  · -- Either no removed step is along the dimension, or the last of them has set the filter.
    rename_i untouched
    rcases Trail.lastValue_append_cases crumbs removed d with ⟨-, same⟩ | ⟨crumb, member, own, same⟩
    · exact follows.trans same
    · exact absurd ⟨crumb, member, own, follows.trans same⟩ untouched

/-- The ways to move along a drill-down without going back above a level. -/
inductive Moves (navigator : Navigator) (top : Nat) (trail : Trail) (filters : Filters) :
    Trail → Filters → Prop where
  | stay : Moves navigator top trail filters trail filters
  | down {d : Dimension} {value : String} {after : Trail} {left : Filters}
      (accepted : drillDown trail filters d value = .ok (after, left)) :
      Moves navigator top trail filters after left
  | up {level : Nat} {after : Trail} {left : Filters} (within : top ≤ level)
      (accepted : navigator.drillUp trail filters level = .ok (after, left)) :
      Moves navigator top trail filters after left

variable {top : Nat} {after : Trail} {left : Filters}

/-- A move keeps a trail well-formed. -/
theorem Moves.wellFormed (moves : navigator.Moves top trail filters after left)
    (wellFormed : trail.WellFormed) : after.WellFormed := by
  -- Each of the moves is one that keeps it.
  cases moves with
  | stay => exact wellFormed
  | down accepted =>
    obtain ⟨filled, same⟩ := drillDown_eq_ok accepted
    cases same
    exact wellFormed.push (by simpa using filled)
  | up within accepted =>
    obtain ⟨removed, kept, back, same⟩ := drillUp_eq_ok accepted
    cases same
    exact wellFormed.truncate back

/-- A move keeps the steps up to its top. -/
theorem Moves.goesOn (moves : navigator.Moves top trail filters after left)
    (short : crumbs.length ≤ top) (goesOn : crumbs <+: trail.crumbs) : crumbs <+: after.crumbs := by
  cases moves with
  | stay => exact goesOn
  | @down d value _ _ accepted =>
    -- A step is added behind all others, if it is added.
    obtain ⟨-, same⟩ := drillDown_eq_ok accepted
    cases same
    rw [Trail.push]
    split
    · exact goesOn
    · exact goesOn.trans (List.prefix_append _ _)
  | @up level _ _ within accepted =>
    -- The steps that remain are as many as the level says, which is not above the top.
    obtain ⟨removed, kept, back, same⟩ := drillUp_eq_ok accepted
    cases same
    obtain ⟨-, -, rfl⟩ := Trail.truncate_eq_ok back
    exact List.prefix_take_iff.2 ⟨goesOn, Nat.le_trans short within⟩

/-- Where steps are unwound, filters that follow a trail follow it after a move as well. -/
theorem Moves.follows (moves : navigator.Moves top trail filters after left)
    (unwinds : navigator.policy = .unwind) (wellFormed : trail.WellFormed)
    (follows : ∀ d, filters.get d = trail.context.get d) (d : Dimension) :
    left.get d = after.context.get d := by
  cases moves with
  | stay => exact follows d
  | @down _ value _ _ accepted =>
    -- The value of the step becomes both the filter and the context of its dimension.
    obtain ⟨filled, same⟩ := drillDown_eq_ok accepted
    cases same
    have proper : Filters.proper (some value) = some value :=
      Filters.proper_of_filled (by simpa using filled)
    rw [Filters.get_set, wellFormed.get_context_push, proper, follows d]
  | @up level _ _ within accepted =>
    -- The steps were those that remain, followed by those that are unwound.
    obtain ⟨removed, kept, back, same⟩ := drillUp_eq_ok accepted
    cases same
    obtain ⟨-, rfl, rfl⟩ := Trail.truncate_eq_ok back
    refine get_unwind_of_follows unwinds
      (fun crumb member => wellFormed.filled crumb (List.mem_of_mem_take member)) ?_
    rw [List.take_append_drop, ← Trail.get_contextOf, ← wellFormed.context]
    exact follows d

end Navigator

namespace Store

variable {store after : Store} {transition : Transition} {top : Nat}

/-- A transition that stays below a level moves along the drill-down, or leaves it. -/
theorem moves_step (stays : transition.staysBelow top = true) :
    store.navigator.Moves top store.current.trail store.current.filters
      (store.step transition).current.trail (store.step transition).current.filters := by
  -- Drilled or refused, what a move leads to is what is committed.
  have of_drill {result : Except Rejection (Trail × Filters)}
      (performs : store.perform transition = result.map fun drilled =>
        store.commit (store.current.withDrill drilled))
      (accepts : ∀ drilled, result = .ok drilled → store.navigator.Moves top store.current.trail
        store.current.filters drilled.1 drilled.2) :
      store.navigator.Moves top store.current.trail store.current.filters
        (store.step transition).current.trail (store.step transition).current.filters := by
    rcases step_of_map store.current.withDrill performs with ⟨drilled, accepted, stepped⟩ | stepped
    · rw [stepped, commit_trail, commit_filters]
      exact accepts drilled accepted
    · rw [stepped]
      exact .stay
  cases transition with
  | setFilter d value | clearFilter d | clearAllFilters | applyReconciliation changes => cases stays
  | setClock now => exact .stay
  | setTimeRange range | setZoom zoom =>
    simp only [step, perform, setTimeRange, setZoom, commit_trail, commit_filters]
    exact .stay
  | applyPreset id =>
    have performs : store.perform (.applyPreset id) = _ := rfl
    rcases step_of_map store.current.withRange performs with ⟨range, -, stepped⟩ | stepped
    · rw [stepped, commit_trail, commit_filters]
      exact .stay
    · rw [stepped]
      exact .stay
  | drillDown d value => exact of_drill rfl fun drilled accepted => .down accepted
  | drillNext value =>
    refine of_drill rfl fun drilled accepted => ?_
    -- The hierarchy only chooses the dimension.
    obtain ⟨d, -, accepted⟩ := Navigator.drillNext_eq_ok accepted
    exact .down accepted
  | drillUp level =>
    have within : top ≤ level := of_decide_eq_true stays
    exact of_drill rfl fun drilled accepted => .up within accepted
  | resetDrill =>
    obtain rfl : top = 0 := of_decide_eq_true stays
    simp only [step, perform, Store.resetDrill, commit_trail, commit_filters]
    exact .up (Nat.zero_le 0) (store.navigator.reset_eq_drillUp _ _)

/-- A transition keeps the way to move along trails. -/
theorem step_navigator : (store.step transition).navigator = store.navigator := by
  -- A transition commits a snapshot or moves the clock.
  obtain ⟨now, next, stepped⟩ := store.step_eq_commit transition
  rw [stepped, commit_navigator]
  rfl

/-- The filters of a store are the context of its drill-down, whose steps are unwound. -/
structure InStep (store : Store) : Prop where
  unwinds : store.navigator.policy = .unwind
  trail : store.current.trail.WellFormed
  follows : ∀ d, store.current.filters.get d = store.current.trail.context.get d

/-- Moving along the drill-down keeps the filters in step with it. -/
theorem InStep.step (inStep : store.InStep) (stays : transition.staysBelow top = true) :
    (store.step transition).InStep where
  -- Each transition along the drill-down is a move, and moves keep each part.
  unwinds := by rw [step_navigator, inStep.unwinds]
  trail := (moves_step stays).wellFormed inStep.trail
  follows := (moves_step stays).follows inStep.unwinds inStep.trail inStep.follows

/-- So does any number of moves, which also keep the steps above which they do not go. -/
theorem InStep.of_leads (inStep : store.InStep)
    (run : Leads Store.step (fun _ transition => transition.staysBelow top = true) store after) :
    after.InStep ∧ ∀ {crumbs : List Crumb}, crumbs.length ≤ top →
      crumbs <+: store.current.trail.crumbs → crumbs <+: after.current.trail.crumbs := by
  -- The induction is on the transitions, the latest one last.
  induction run with
  | start same =>
    cases same
    exact ⟨inStep, fun _ goesOn => goesOn⟩
  | step _ stays before =>
    obtain ⟨inStep, kept⟩ := before
    exact ⟨inStep.step stays, fun short goesOn =>
      (moves_step stays).goesOn short (kept short goesOn)⟩

/-- A new store shows neither filters nor steps. -/
theorem inStep_create {config : Config} {now : Instant} (created : create config now = .ok store)
    (unwinds : config.drillPolicy = .unwind) : store.InStep := by
  -- At the root, no filter has to follow anything.
  obtain ⟨-, range, -, rfl⟩ := create_eq_ok created
  exact ⟨unwinds, Trail.wellFormed_root, fun _ => rfl⟩

/-- From a place further down, the way back to an earlier level restores the filters there. -/
theorem InStep.drillUp_restores (inStep : store.InStep) (later : after.InStep)
    (goesOn : store.current.trail.crumbs <+: after.current.trail.crumbs) :
    ∃ back, after.drillUp store.current.trail.level = .ok back ∧
      back.current.trail = store.current.trail ∧
      back.current.filters = store.current.filters := by
  -- The way back ends at the earlier trail, where the filters are in step with it again.
  have truncated := inStep.trail.truncate_of_prefix later.trail goesOn
  have accepted : after.navigator.drillUp after.current.trail after.current.filters
      store.current.trail.level = .ok (store.current.trail, after.navigator.unwind
        store.current.trail after.current.filters
        (after.current.trail.crumbs.drop store.current.trail.level)) := by
    rw [Navigator.drillUp, truncated]
    rfl
  have moves := Navigator.Moves.up (Nat.zero_le _) accepted
  refine ⟨after.commit (after.current.withDrill _), by rw [drillUp, accepted]; rfl,
    commit_trail, ?_⟩
  rw [commit_filters]
  ext1 d
  exact (moves.follows later.unwinds later.trail later.follows d).trans (inStep.follows d).symm

/--
While a store that unwinds is moved along drill-downs alone, its filters are the context of its
trail.

So going down from any place and back up to its level restores the filters that were set there.
-/
theorem filters_follow_trail {config : Config} {now : Instant} {origin : Store}
    (created : create config now = .ok origin) (unwinds : config.drillPolicy = .unwind)
    (run : Leads step (fun _ transition => transition.navigates = true) origin store) :
    (∀ d, store.current.filters.get d = store.current.trail.context.get d) ∧
      ∀ deeper, Leads step
          (fun _ transition => transition.staysBelow store.current.trail.level = true)
          store deeper →
        ∃ back, deeper.drillUp store.current.trail.level = .ok back ∧
          back.current.trail = store.current.trail ∧
          back.current.filters = store.current.filters := by
  have inStep := ((inStep_create created unwinds).of_leads run).1
  refine ⟨inStep.follows, fun deeper descent => ?_⟩
  -- A descent keeps the steps that lead to the place where it begins.
  obtain ⟨later, kept⟩ := inStep.of_leads descent
  exact inStep.drillUp_restores later (kept (Nat.le_of_eq inStep.trail.depth) List.prefix_rfl)

/-- The standard settings, but for drill-downs that are unwound. -/
def unwinding : Config :=
  { Config.standard with drillPolicy := .unwind }

/-- A new store with these settings. -/
def untouched : Store :=
  { Session.fresh.dashboard.store with navigator := ⟨.unwind, .standard⟩ }

/-- A user has drilled down to a region, and to an endpoint in it. -/
def visited : Store :=
  [.drillDown .region "eu", .drillNext "/pay"].foldl step untouched

/-- Further down the user has been in the same region again, between two visits of another one. -/
def astray : Store :=
  [.drillDown .region "us", .setZoom .unbounded, .drillDown .region "eu",
    .drillDown .region "us"].foldl step visited

/-- From the detour through two regions, the way back to the endpoint restores the first region. -/
theorem filters_follow_trail_detour :
    create unwinding Session.noon = .ok untouched ∧
      astray.current.filters.get .region = some "us" ∧
      ∃ back, astray.drillUp 2 = .ok back ∧ back.current.filters.get .region = some "eu" := by
  -- The run is cut where the endpoint is reached, and the detour starts there.
  have run : Leads step (fun _ transition => transition.navigates = true) untouched visited :=
    (Leads.refl untouched).steps (by decide)
  have descent : Leads step (fun _ transition => transition.staysBelow 2 = true) visited astray :=
    (Leads.refl visited).steps (by decide)
  have created : create unwinding Session.noon = .ok untouched := rfl
  obtain ⟨back, accepted, -, filters⟩ := (filters_follow_trail created rfl run).2 astray descent
  exact ⟨created, by rfl, back, accepted, by rw [filters]; rfl⟩

end Store

end Viewpoint
