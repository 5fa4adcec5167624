import Mathlib.Data.List.Chain
import Viewpoint.Proofs.Candidates
import Viewpoint.Proofs.Transitions

/-! The revision of a snapshot tells it apart from all others that a dashboard shows. -/

namespace Viewpoint

/-- Two snapshots differ in something that widgets or users see. -/
def Snapshot.Differs (a b : Snapshot) : Prop :=
  a.range ≠ b.range ∨ a.filters ≠ b.filters ∨ a.trail ≠ b.trail ∨ a.zoom ≠ b.zoom

/-- Snapshots that show the same do not differ, and all others do. -/
theorem Snapshot.sameState_eq_false_iff {a b : Snapshot} : a.sameState b = false ↔ b.Differs a := by
  -- To show the same is to agree in each of the four parts.
  rw [← Bool.not_eq_true, sameState_iff, Differs, ne_comm, ne_comm (a := b.filters),
    ne_comm (a := b.trail), ne_comm (a := b.zoom)]
  simp only [not_and_or]

namespace Store

variable {store before after : Store} {transition : Transition}

/-- A store after a transition: a change counts as one revision, and subscribers are told of it. -/
structure Succeeds (before after : Store) : Prop where
  changed : before.current.Differs after.current →
    after.current.revision = before.current.revision + 1
  unchanged : ¬ before.current.Differs after.current → after.current = before.current
  notified : after.updates.hasNews before.updates.subscribe = true ↔
    before.current.Differs after.current

/-- A store later in a run: its revision tells whether it shows the same snapshot still. -/
structure Outlasts (before after : Store) : Prop where
  monotone : before.current.revision ≤ after.current.revision
  identified : before.current.revision = after.current.revision → before.current = after.current
  notified : after.updates.hasNews before.updates.subscribe = true ↔ before.current ≠ after.current

/-- A store holds the snapshot that it showed before, or one of a later revision and version. -/
def Advances (before after : Store) : Prop :=
  (after.current = before.current ∧ after.updates.version = before.updates.version) ∨
    (before.current.revision < after.current.revision ∧
      before.updates.version < after.updates.version)

instance : Trans Advances Advances Advances where
  trans := by
    -- Whoever stays at a snapshot twice has stayed at it, and all else moves on.
    rintro a b c (⟨same, version⟩ | ⟨later, newer⟩) (⟨same', version'⟩ | ⟨later', newer'⟩)
    · exact .inl ⟨same'.trans same, version'.trans version⟩
    · exact .inr ⟨same ▸ later', version ▸ newer'⟩
    · exact .inr ⟨same' ▸ later, version' ▸ newer⟩
    · exact .inr ⟨Nat.lt_trans later later', Nat.lt_trans newer newer'⟩

/-- A transition either changes nothing but the clock, or publishes the next revision. -/
theorem step_cases (store : Store) (transition : Transition) :
    (∃ now, store.step transition = store.setClock now) ∨
      ∃ now next, store.current.Differs next ∧ next.revision = store.current.revision + 1 ∧
        store.step transition = { store with
          now
          current := next
          updates := store.updates.publish next } := by
  obtain ⟨now, next, stepped⟩ := store.step_eq_commit transition
  -- The commit compares what it is given with what is shown.
  cases same : next.sameState (store.setClock now).current with
  | true => exact .inl ⟨now, by rw [stepped, commit_of_sameState same]⟩
  | false =>
    refine .inr ⟨now, { next with revision := store.current.revision + 1 }, ?_, rfl, ?_⟩
    · exact Snapshot.sameState_eq_false_iff.1 same
    · rw [stepped, commit_of_not_sameState same]
      rfl

/-- A change counts as one revision, is told to subscribers, and nothing else is. -/
theorem succeeds_step (store : Store) (transition : Transition) :
    store.Succeeds (store.step transition) := by
  rcases store.step_cases transition with ⟨now, stepped⟩ | ⟨now, next, differs, revision, stepped⟩
  · -- Nothing differs from itself, and a subscriber has seen what was published last.
    have still : ¬ store.current.Differs store.current := by simp [Snapshot.Differs]
    rw [stepped]
    exact {
      changed := fun differs => absurd differs still
      unchanged := fun _ => rfl
      notified := iff_of_false (by simp [setClock, Channel.hasNews, Channel.subscribe]) still }
  · rw [stepped]
    exact {
      changed := fun _ => revision
      unchanged := fun same => absurd differs same
      notified := iff_of_true (by simp [Channel.hasNews, Channel.subscribe, Channel.publish])
        differs }

/-- A transition stays at a snapshot or goes on to a later one. -/
theorem advances_step (store : Store) (transition : Transition) :
    store.Advances (store.step transition) := by
  -- The clock is neither shown nor published.
  rcases store.step_cases transition with ⟨now, stepped⟩ | ⟨now, next, -, revision, stepped⟩
  · rw [stepped]
    exact .inl ⟨rfl, rfl⟩
  · rw [stepped]
    exact .inr ⟨by simp [revision], by simp [Channel.publish]⟩

/-- A store that has stayed or gone on is told apart by its revision. -/
theorem Advances.outlasts (advances : before.Advances after) : before.Outlasts after := by
  rcases advances with ⟨same, version⟩ | ⟨later, newer⟩
  · exact {
      monotone := Nat.le_of_eq (by rw [same])
      identified := fun _ => same.symm
      notified := by simp [Channel.hasNews, Channel.subscribe, same, version] }
  · -- A later revision is another one, so the snapshots differ in it at least.
    have apart : before.current ≠ after.current := fun same => by
      rw [same] at later
      exact Nat.lt_irrefl _ later
    exact {
      monotone := Nat.le_of_lt later
      identified := fun same => absurd same (Nat.ne_of_lt later)
      notified := by
        simp [Channel.hasNews, Channel.subscribe, apart, Nat.ne_of_lt newer] }

/-- Stores that follow one another by transitions are related as one transition relates them. -/
theorem isChain_scanl {related : Store → Store → Prop}
    (relates : ∀ store transition, related store (store.step transition)) (store : Store)
    (transitions : List Transition) : (transitions.scanl step store).IsChain related := by
  -- The induction is on the transitions, the first of which leads to the store of the others.
  induction transitions generalizing store with
  | nil => simp
  | cons transition rest ih =>
    rw [List.scanl_cons]
    refine (ih (store.step transition)).cons fun next first => ?_
    rw [List.head?_scanl, Option.mem_def, Option.some.injEq] at first
    exact first ▸ relates store transition

/-- The channel of a store has the current snapshot. -/
def IsPublished (store : Store) : Prop :=
  store.updates.value = store.current

/-- A transition publishes what it makes current. -/
theorem IsPublished.step (published : store.IsPublished) : (store.step transition).IsPublished := by
  -- What is not published is not made current either.
  rcases store.step_cases transition with ⟨now, stepped⟩ | ⟨now, next, -, -, stepped⟩
  · rw [stepped]
    exact published
  · rw [stepped]
    rfl

/-- So all stores that follow one another by transitions have published what they show. -/
theorem IsPublished.of_mem_scanl (published : store.IsPublished) {transitions : List Transition}
    (member : after ∈ transitions.scanl Store.step store) : after.IsPublished := by
  -- The induction is on the transitions, for any store before them.
  induction transitions generalizing store with
  | nil =>
    rw [List.scanl_nil, List.mem_singleton] at member
    exact member ▸ published
  | cons transition rest ih =>
    rw [List.scanl_cons] at member
    rcases List.mem_cons.1 member with rfl | later
    · exact published
    · exact ih published.step later

end Store

namespace Dashboard

variable {dashboard : Dashboard} {event : Event}

/-- The transitions that reconciling candidates makes: one, if any filter is to be changed. -/
def reconciling (dashboard : Dashboard) (candidates : Candidates) : List Transition :=
  let changes := (dashboard.reconcile candidates).1
  if changes.isEmpty then [] else [.applyReconciliation changes]

/-- The transitions that an event makes in their order, though some of them may be refused. -/
def transitionsOf (dashboard : Dashboard) : Event → List Transition
  | .setTimeRange start finish =>
    -- What is no range is refused before the store sees it, and so is what is no zoom.
    match TimeRange.between start finish with
    | .ok range => [.setTimeRange range]
    | .error _ => []
  | .applyPreset id => [.applyPreset id]
  | .setFilter d value => [.setFilter d value]
  | .clearFilter d => [.clearFilter d]
  | .clearAllFilters =>
    -- The lists in the cache are used once more, now that there are no filters.
    .clearAllFilters :: reconciling { dashboard with
      store := dashboard.store.clearAllFilters
      reconciler := dashboard.reconciler.rearmAll } dashboard.candidates
  | .drillDown d value => [.drillDown d value]
  | .drillNext value => [.drillNext value]
  | .drillUp level => [.drillUp level]
  | .resetDrill => [.resetDrill]
  | .setZoom min max =>
    match Zoom.within min max with
    | .ok zoom => [.setZoom zoom]
    | .error _ => []
  | .clearZoom => [.setZoom .unbounded]
  | .applyBrush =>
    match dashboard.config.brushPolicy, dashboard.brush.selection with
    | .applyOnCommit, some zoom => [.setZoom zoom]
    | _, _ => []
  | .brush _ _ | .clearBrush => []
  | .optionsLoaded candidates => dashboard.reconciling candidates

/-- Reconciling candidates changes the store by its transitions alone. -/
theorem store_reconcile (candidates : Candidates) : (dashboard.reconcile candidates).2.store =
    (dashboard.reconciling candidates).foldl Store.step dashboard.store := by
  -- Without changes the store is left alone, and otherwise they are one transition.
  change (if (dashboard.reconcile candidates).1.isEmpty then dashboard.store else _) = _
  rw [reconciling]
  split <;> rfl

/-- A dashboard takes over the store after a change, unless the store refuses it. -/
theorem store_withStore (result : Except Rejection Store) :
    (match (result.map dashboard.withStore).map observeAll with
      | .ok after => after.store
      | .error _ => dashboard.store) =
      match result with
      | .ok store => store
      | .error _ => dashboard.store := by
  -- A refusal leaves the store, and noticing what is shown does not touch it.
  cases result <;> rfl

/-- The store after an event, which is the one before it if the event is refused. -/
theorem store_dispatch (dashboard : Dashboard) (event : Event) :
    (match dashboard.dispatch event with
      | .ok after => after.store
      | .error _ => dashboard.store) =
      (dashboard.transitionsOf event).foldl Store.step dashboard.store := by
  cases event with
  | setTimeRange start finish =>
    simp only [dispatch, handle, transitionsOf]
    cases TimeRange.between start finish <;> rfl
  | setZoom min max =>
    simp only [dispatch, handle, transitionsOf]
    cases Zoom.within min max <;> rfl
  | brush min max =>
    simp only [dispatch, handle, transitionsOf]
    cases Zoom.within min max <;> rfl
  | applyPreset | drillDown | drillNext | drillUp =>
    -- The store refuses these by itself, and then neither it nor the dashboard changes.
    exact store_withStore _
  | setFilter d value | clearFilter d | resetDrill | clearZoom | clearBrush => rfl
  | applyBrush =>
    simp only [dispatch, handle, applyBrush, transitionsOf, Brush.take]
    cases dashboard.config.brushPolicy <;> cases dashboard.brush.selection <;> rfl
  | clearAllFilters => exact store_reconcile dashboard.candidates
  | optionsLoaded candidates => exact store_reconcile candidates

end Dashboard

namespace Session

variable {config : Config} {session : Session} {operation : Operation}

/-- The transitions that an operation makes. -/
def transitionsOf (session : Session) : Operation → List Transition
  | .setClock now => [.setClock now]
  | .register _ _ | .startPending => []
  | .dispatch event => session.dashboard.transitionsOf event
  | .reconcile candidates => session.dashboard.reconciling candidates
  | .complete fetch result =>
    session.dashboard.reconciling (session.dashboard.brought fetch.ticket result)

/-- An operation changes the store by its transitions alone. -/
theorem store_step (session : Session) (operation : Operation) :
    (session.step operation).dashboard.store =
      (session.transitionsOf operation).foldl Store.step session.dashboard.store := by
  -- Events, candidates and answers each make their own transitions, and nothing else reaches the
  -- store.
  cases operation with
  | setClock now | startPending => rfl
  | register id widget =>
    refine become_of (fun later => later.dashboard.store = session.dashboard.store) rfl
      fun after registered => ?_
    obtain ⟨-, rfl⟩ := Dashboard.register_eq_ok registered
    rfl
  | dispatch event =>
    rw [transitionsOf, ← Dashboard.store_dispatch, step]
    cases session.dashboard.dispatch event <;> rfl
  | reconcile candidates => exact Dashboard.store_reconcile candidates
  | complete fetch result =>
    rw [step_complete_dashboard]
    exact Dashboard.store_reconcile _

/-- The transitions that operations make one after the other. -/
def transitionsAlong : Session → List Operation → List Transition
  | _, [] => []
  | session, operation :: operations =>
    session.transitionsOf operation ++ transitionsAlong (session.step operation) operations

/--
The stores that a session goes through while operations are done: the one at its start, and one
after each transition.
-/
def course (session : Session) (operations : List Operation) : List Store :=
  (session.transitionsAlong operations).scanl Store.step session.dashboard.store

/-- The transitions of operations are those of the first ones, followed by those of the others. -/
theorem transitionsAlong_append (session : Session) (past rest : List Operation) :
    session.transitionsAlong (past ++ rest) =
      session.transitionsAlong past ++ (past.foldl step session).transitionsAlong rest := by
  -- The induction is on the first operations, for any session before them.
  induction past generalizing session with
  | nil => rfl
  | cons operation past ih =>
    simp only [List.cons_append, transitionsAlong, ih, List.append_assoc, List.foldl_cons]

/-- The transitions of operations lead from the store before them to the one after them. -/
theorem store_foldl (session : Session) (operations : List Operation) :
    (operations.foldl step session).dashboard.store =
      (session.transitionsAlong operations).foldl Store.step session.dashboard.store := by
  -- The induction is on the operations, for any session before them.
  induction operations generalizing session with
  | nil => rfl
  | cons operation rest ih =>
    rw [List.foldl_cons, ih, transitionsAlong, List.foldl_append, ← store_step]

/-- The course of a session goes on where it was, and ends at the store that the dashboard has. -/
theorem course_append (session : Session) (past rest : List Operation) :
    session.course past <+: session.course (past ++ rest) ∧
      (session.course past).getLast? = some (past.foldl step session).dashboard.store := by
  constructor
  · -- More operations only add stores at the end.
    rw [course, course, transitionsAlong_append, List.scanl_append]
    exact List.prefix_append _ _
  · rw [course, List.getLast?_scanl, store_foldl]

/-- A new dashboard has published the snapshot that it shows. -/
theorem isPublished_start (started : IsStart config session) :
    session.dashboard.store.IsPublished := by
  -- The channel is opened with the first snapshot.
  obtain ⟨now, dashboard, created, rfl⟩ := started
  obtain ⟨-, range, -, rfl⟩ := Dashboard.create_eq_ok created
  rfl

/--
A session goes through stores each of which comes out of the one before by a transition, with a new
revision exactly if something has changed.

So a revision is that of one snapshot alone, which subscribers have as soon as it is current.
-/
theorem revision_identifies (started : IsStart config session) (operations : List Operation) :
    (∀ past rest, operations = past ++ rest →
        session.course past <+: session.course operations ∧
          (session.course past).getLast? = some (past.foldl step session).dashboard.store) ∧
      (session.course operations).IsChain Store.Succeeds ∧
      (session.course operations).Pairwise Store.Outlasts ∧
      ∀ store ∈ session.course operations, store.IsPublished := by
  refine ⟨?_, Store.isChain_scanl Store.succeeds_step _ _, ?_, ?_⟩
  · rintro past rest rfl
    exact session.course_append past rest
  · -- What holds of neighbours and passes on holds of any two stores.
    have advances := Store.isChain_scanl Store.advances_step session.dashboard.store
      (session.transitionsAlong operations)
    exact advances.pairwise.imp Store.Advances.outlasts
  · exact fun store => (isPublished_start started).of_mem_scanl

/-- A default is loaded, and then all filters are cleared, which loads it again. -/
def defaultedAgain : List Operation :=
  [loadMetrics, .dispatch .clearAllFilters]

/-- Clearing all filters takes two revisions, which show what was shown before under new numbers. -/
theorem revision_identifies_defaultedAgain :
    IsStart .standard fresh ∧
      (fresh.course defaultedAgain).map (·.current.revision) = [0, 1, 2, 3] ∧
      (fresh.course defaultedAgain).Pairwise Store.Outlasts := by
  -- The numbers are evaluated, and that they identify what is shown follows.
  refine ⟨fresh_isStart, ?_, (revision_identifies fresh_isStart defaultedAgain).2.2.1⟩
  decide

end Session

end Viewpoint
