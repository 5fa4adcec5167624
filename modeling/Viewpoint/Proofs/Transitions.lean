import Viewpoint.Proofs.Run
import Viewpoint.Proofs.Store

/-! The transitions of a store, each of which commits one snapshot. -/

namespace Viewpoint

/-- One use of a store: a change of what it shows, or of the clock that later changes read. -/
inductive Transition where
  | setClock (now : Instant)
  | setTimeRange (range : TimeRange)
  | applyPreset (id : PresetId)
  | setFilter (d : Dimension) (value : Option String)
  | clearFilter (d : Dimension)
  | clearAllFilters
  | drillDown (d : Dimension) (value : String)
  | drillNext (value : String)
  | drillUp (level : Nat)
  | resetDrill
  | setZoom (zoom : Zoom)
  | applyReconciliation (changes : Reconciliation)
  deriving DecidableEq, Repr

namespace Transition

/--
A transition goes back to no level above the given one, and writes no filter but those that belong
to moving along the drill-down.
-/
def staysBelow (level : Nat) : Transition → Bool
  | setFilter _ _ | clearFilter _ | clearAllFilters | applyReconciliation _ => false
  | drillUp target => level ≤ target
  | resetDrill => level = 0
  | setClock _ | setTimeRange _ | applyPreset _ | drillDown _ _ | drillNext _ | setZoom _ => true

/-- A transition writes no filter but those that belong to moving along the drill-down. -/
def navigates (transition : Transition) : Bool :=
  transition.staysBelow 0

end Transition

namespace Store

variable {store : Store} {transition : Transition}

/-- Makes a transition, unless it is refused. -/
def perform (store : Store) : Transition → Except Rejection Store
  -- A store refuses presets and moves along the drill-down, and nothing else.
  | .setClock now => .ok (store.setClock now)
  | .setTimeRange range => .ok (store.setTimeRange range)
  | .applyPreset id => store.applyPreset id
  | .setFilter d value => .ok (store.setFilter d value)
  | .clearFilter d => .ok (store.clearFilter d)
  | .clearAllFilters => .ok store.clearAllFilters
  | .drillDown d value => store.drillDown d value
  | .drillNext value => store.drillNext value
  | .drillUp level => store.drillUp level
  | .resetDrill => .ok store.resetDrill
  | .setZoom zoom => .ok (store.setZoom zoom)
  | .applyReconciliation changes => .ok (store.applyReconciliation changes)

/-- The store after a transition, which leaves it as it was if it is refused. -/
def step (store : Store) (transition : Transition) : Store :=
  match store.perform transition with
  | .ok after => after
  | .error _ => store

/-- A snapshot that is shown already is not committed again. -/
theorem commit_current (store : Store) : store.commit store.current = store :=
  -- A snapshot shows the same as itself.
  commit_of_sameState (by simp [Snapshot.sameState_iff])

/-- A transition that asks for a result commits what it makes of it, or is refused with it. -/
theorem step_of_map {α : Type} {result : Except Rejection α} (next : α → Snapshot)
    (performs : store.perform transition = result.map fun a => store.commit (next a)) :
    (∃ a, result = .ok a ∧ store.step transition = store.commit (next a)) ∨
      store.step transition = store := by
  -- A refusal leaves the store as it was.
  cases result with
  | error rejection => exact .inr (by simp only [step, performs, Except.map])
  | ok a => exact .inl ⟨a, rfl, by simp only [step, performs, Except.map]⟩

/-- Whatever a transition does, it commits one snapshot, perhaps after the clock was moved. -/
theorem step_eq_commit (store : Store) (transition : Transition) :
    ∃ now next, store.step transition = (store.setClock now).commit next := by
  -- Where nothing changes, the snapshot that is shown already counts as committed.
  have of_map {α : Type} {result : Except Rejection α} (next : α → Snapshot)
      (performs : store.perform transition = result.map fun a => store.commit (next a)) :
      ∃ now next, store.step transition = (store.setClock now).commit next := by
    rcases step_of_map next performs with ⟨a, -, stepped⟩ | stepped
    · exact ⟨store.now, next a, stepped⟩
    · exact ⟨store.now, store.current, stepped.trans store.commit_current.symm⟩
  cases transition with
  | setClock now => exact ⟨now, store.current, (store.setClock now).commit_current.symm⟩
  | setTimeRange range | setFilter d value | clearFilter d | clearAllFilters | resetDrill
    | setZoom zoom | applyReconciliation changes => exact ⟨store.now, _, rfl⟩
  | applyPreset id => exact of_map store.current.withRange rfl
  | drillDown d value | drillNext value | drillUp level =>
    exact of_map store.current.withDrill rfl

end Store

end Viewpoint
