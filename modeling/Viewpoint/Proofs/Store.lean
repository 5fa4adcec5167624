import Viewpoint.Store

/-! What a commit changes: the parts of the snapshot that are new, and the revision if any is. -/

namespace Viewpoint

namespace Snapshot

/-- Two snapshots show the same when they agree in all but the revision. -/
theorem sameState_iff {a b : Snapshot} :
    a.sameState b = true ↔
      a.range = b.range ∧ a.filters = b.filters ∧ a.trail = b.trail ∧ a.zoom = b.zoom := by
  -- The four parts are compared one after the other.
  simp [sameState, and_assoc]

end Snapshot

namespace Store

variable {store : Store} {next again : Snapshot}

/-- A store is created for a valid configuration only, and shows the range of its default preset. -/
theorem create_eq_ok {config : Config} {now : Instant} (created : create config now = .ok store) :
    config.validate = .ok () ∧
      ∃ range, Preset.resolve config.presets now config.defaultPreset = .ok range ∧
        store = {
          presets := config.presets
          navigator := ⟨config.drillPolicy, config.hierarchy⟩
          now
          current := .initial range
          updates := .opening (.initial range) } := by
  -- Both the check of the configuration and the range of the preset have to succeed.
  rw [create] at created
  cases validated : config.validate with
  | error fault => simp [validated, bind, Except.bind] at created
  | ok _ =>
    cases resolved : Preset.resolve config.presets now config.defaultPreset with
    | error rejection => simp [validated, resolved, bind, Except.bind] at created
    | ok range =>
      simp only [validated, resolved, bind, Except.bind, pure, Except.pure] at created
      cases created
      exact ⟨rfl, range, rfl, rfl⟩

/-- A snapshot that shows nothing new is not committed. -/
theorem commit_of_sameState (same : next.sameState store.current = true) :
    store.commit next = store := by
  -- A commit begins with that comparison.
  rw [commit, if_pos same]

/-- A snapshot that shows something new is published with the next revision. -/
theorem commit_of_not_sameState (news : next.sameState store.current = false) :
    store.commit next = { store with
      current := { next with revision := store.current.revision + 1 }
      updates := store.updates.publish { next with revision := store.current.revision + 1 } } := by
  -- A commit begins with a comparison, which fails here.
  rw [commit, if_neg (by simp [news])]

/-- After a commit the store shows what was committed. -/
theorem sameState_commit (store : Store) (next : Snapshot) :
    next.sameState (store.commit next).current = true := by
  -- If nothing was new, the store showed it before.
  cases same : next.sameState store.current with
  | true => rwa [commit_of_sameState same]
  | false => simp [commit_of_not_sameState same, Snapshot.sameState_iff]

/-- After a commit the time range is the one that was committed. -/
@[simp] theorem commit_range : (store.commit next).current.range = next.range :=
  -- If nothing is committed, then the same was shown before.
  (Snapshot.sameState_iff.1 (store.sameState_commit next)).1.symm

/-- After a commit the filters are those that were committed. -/
@[simp] theorem commit_filters : (store.commit next).current.filters = next.filters :=
  -- If nothing is committed, then the same was shown before.
  (Snapshot.sameState_iff.1 (store.sameState_commit next)).2.1.symm

/-- After a commit the drill-down is the one that was committed. -/
@[simp] theorem commit_trail : (store.commit next).current.trail = next.trail :=
  -- If nothing is committed, then the same was shown before.
  (Snapshot.sameState_iff.1 (store.sameState_commit next)).2.2.1.symm

/-- After a commit the zoom is the one that was committed. -/
@[simp] theorem commit_zoom : (store.commit next).current.zoom = next.zoom :=
  -- If nothing is committed, then the same was shown before.
  (Snapshot.sameState_iff.1 (store.sameState_commit next)).2.2.2.symm

/-- A commit counts as one revision if it shows something new, and as none otherwise. -/
theorem commit_revision : (store.commit next).current.revision =
    store.current.revision + if next.sameState store.current then 0 else 1 := by
  -- A commit either leaves the store or takes the next number.
  rw [commit]
  split <;> rfl

/-- A commit keeps the presets. -/
@[simp] theorem commit_presets : (store.commit next).presets = store.presets := by
  -- A commit either leaves the store or changes what is shown in it.
  rw [commit]
  split <;> rfl

/-- A commit keeps the way to move along trails. -/
@[simp] theorem commit_navigator : (store.commit next).navigator = store.navigator := by
  -- A commit either leaves the store or changes what is shown in it.
  rw [commit]
  split <;> rfl

/-- A commit keeps the clock. -/
@[simp] theorem commit_now : (store.commit next).now = store.now := by
  -- A commit either leaves the store or changes what is shown in it.
  rw [commit]
  split <;> rfl

/-- A change that is taken back at once still counts as two revisions. -/
theorem commit_commit_back (away : next.sameState store.current = false)
    (back : again.sameState store.current = true) :
    (store.commit next).commit again = { store with
      current := { store.current with revision := store.current.revision + 2 }
      updates := ⟨{ store.current with revision := store.current.revision + 2 },
        store.updates.version + 2⟩ } := by
  obtain ⟨range, filters, trail, zoom⟩ := Snapshot.sameState_iff.1 back
  -- What comes back differs from what was shown in between.
  have news : again.sameState { next with revision := store.current.revision + 1 } = false := by
    refine Bool.eq_false_iff.2 fun same => ?_
    obtain ⟨range', filters', trail', zoom'⟩ := Snapshot.sameState_iff.1 same
    have shown : next.sameState store.current = true := Snapshot.sameState_iff.2
      ⟨range'.symm.trans range, filters'.symm.trans filters, trail'.symm.trans trail,
        zoom'.symm.trans zoom⟩
    rw [away] at shown
    cases shown
  have shown : { again with revision := store.current.revision + 2 } =
      { store.current with revision := store.current.revision + 2 } := by
    rw [range, filters, trail, zoom]
  rw [commit_of_not_sameState away, commit_of_not_sameState news]
  simp only [Channel.publish, Nat.add_assoc, shown]

end Store

end Viewpoint
