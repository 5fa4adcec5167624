import Mathlib.Data.List.Nodup
import Viewpoint.Proofs.Events

/-! Events that set different parts of the snapshot may be dispatched in any order. -/

namespace Viewpoint

/-- A part of the snapshot that is set as a whole. -/
inductive Slice where
  | range
  | filter (d : Dimension)
  | zoom
  deriving DecidableEq, Repr

/-- A slice, and what it is set to. -/
inductive Setting where
  | range (range : TimeRange)
  | filter (d : Dimension) (value : Option String)
  | zoom (zoom : Zoom)
  deriving DecidableEq, Repr

/-- The slice that is set. -/
def Setting.slice : Setting → Slice
  | range _ => .range
  | filter d _ => .filter d
  | zoom _ => .zoom

namespace Event

/-- An event of a kind that sets one slice. -/
def setsSlice : Event → Bool
  | setTimeRange _ _ | setFilter _ _ | clearFilter _ | setZoom _ _ | clearZoom => true
  | _ => false

/-- What an event sets; an event that is not valid, or of another kind, sets nothing. -/
def setting? : Event → Option Setting
  | setTimeRange start finish => (TimeRange.between start finish).toOption.map .range
  | setFilter d value => some (.filter d value)
  | clearFilter d => some (.filter d none)
  | setZoom min max => (Zoom.within min max).toOption.map .zoom
  | clearZoom => some (.zoom .unbounded)
  | _ => none

end Event

/-- All events set slices, and there is at most one valid event for each slice. -/
structure OnOwnSlices (events : List Event) : Prop where
  sets : ∀ event ∈ events, event.setsSlice = true
  apart : ((events.filterMap Event.setting?).map Setting.slice).Nodup

namespace Filters

variable {filters : Filters} {d other : Dimension} {value second : Option String}

/-- Setting a filter changes nothing exactly when it has that value already. -/
theorem set_eq_self_iff : filters.set d value = filters ↔ filters.get d = proper value := by
  -- The other dimensions keep their values in any case.
  constructor
  · intro same
    rw [← same, get_set, if_pos rfl]
  · intro same
    ext1 other
    rw [get_set]
    split
    · rename_i own
      rw [own, same]
    · rfl

/-- Two filters may be set in either order. -/
theorem set_comm (apart : d ≠ other) :
    (filters.set d value).set other second = (filters.set other second).set d value := by
  -- Each dimension is written by at most one of the two.
  ext1 read
  simp only [get_set]
  by_cases first : read = d
  · simp [first, apart]
  · simp [first]

end Filters

namespace Snapshot

variable {snapshot : Snapshot} {a b : Setting}

/-- The snapshot with a slice set. -/
def put (snapshot : Snapshot) : Setting → Snapshot
  | .range range => snapshot.withRange range
  | .filter d value => snapshot.withFilter d value
  | .zoom zoom => snapshot.withZoom zoom

/-- A slice is set in the snapshot. -/
def Shows (snapshot : Snapshot) : Setting → Prop
  | .range range => snapshot.range = range
  | .filter d value => snapshot.filters.get d = Filters.proper value
  | .zoom zoom => snapshot.zoom = zoom

instance (snapshot : Snapshot) : ∀ setting, Decidable (snapshot.Shows setting)
  | .range _ | .filter _ _ | .zoom _ => inferInstanceAs (Decidable (_ = _))

/-- Snapshots that show the same have the same slices set. -/
theorem shows_congr {other : Snapshot} (same : snapshot.sameState other = true) :
    snapshot.Shows a ↔ other.Shows a := by
  -- Each slice is one of the parts that are compared.
  obtain ⟨range, filters, -, zoom⟩ := sameState_iff.1 same
  cases a <;> simp only [Shows, range, filters, zoom]

/-- Setting a slice does not depend on the revision. -/
theorem put_revision (snapshot : Snapshot) (revision : Nat) (a : Setting) :
    { snapshot with revision }.put a = { snapshot.put a with revision } := by
  -- Each kind of setting replaces another part.
  cases a <;> rfl

/-- Setting a slice shows something new exactly when it is not set already. -/
theorem sameState_put : (snapshot.put a).sameState snapshot = true ↔ snapshot.Shows a := by
  -- All parts but the one that is set agree already.
  rw [sameState_iff]
  cases a with
  | range range => simp [put, withRange, Shows, eq_comm]
  | filter d value => simp [put, withFilter, Shows, Filters.set_eq_self_iff]
  | zoom zoom => simp [put, withZoom, Shows, eq_comm]

/-- A slice that was set is set. -/
theorem shows_put : (snapshot.put a).Shows a := by
  -- The part that is set is the part that is looked at.
  cases a with
  | range range | zoom zoom => rfl
  | filter d value => exact (Filters.get_set _ _ _ _).trans (if_pos rfl)

/-- Setting one slice leaves the others. -/
theorem shows_put_of_apart (apart : a.slice ≠ b.slice) :
    (snapshot.put a).Shows b ↔ snapshot.Shows b := by
  -- Different slices are different parts, and filters of different dimensions.
  cases a with
  | range range | zoom zoom => cases b <;> first | rfl | exact absurd rfl apart
  | filter d value =>
    cases b with
    | range range | zoom zoom => rfl
    | filter other second =>
      have distinct : other ≠ d := fun same => apart (congrArg Slice.filter same.symm)
      simp only [Shows, put, withFilter, Filters.get_set, if_neg distinct]

/-- Different slices may be set in either order. -/
theorem put_put (apart : a.slice ≠ b.slice) :
    (snapshot.put a).put b = (snapshot.put b).put a := by
  -- Different slices are different parts, and filters of different dimensions commute.
  cases a with
  | range range | zoom zoom => cases b <;> first | rfl | exact absurd rfl apart
  | filter d value =>
    cases b with
    | range range | zoom zoom => rfl
    | filter other second =>
      have distinct : d ≠ other := fun same => apart (congrArg Slice.filter same)
      simp only [put, withFilter, Filters.set_comm distinct]

end Snapshot

namespace Store

variable {store : Store} {a b : Setting}

/-- Sets a slice of the current snapshot. -/
def put (store : Store) (a : Setting) : Store :=
  store.commit (store.current.put a)

/-- A slice that is set already is not set again. -/
theorem put_of_shows (shown : store.current.Shows a) : store.put a = store :=
  -- Nothing new would be committed.
  commit_of_sameState (Snapshot.sameState_put.2 shown)

/-- A slice that is set anew makes the next revision. -/
theorem put_of_not_shows (news : ¬store.current.Shows a) : store.put a = { store with
    current := { store.current.put a with revision := store.current.revision + 1 }
    updates := store.updates.publish
      { store.current.put a with revision := store.current.revision + 1 } } :=
  -- Something new is committed.
  commit_of_not_sameState (Bool.eq_false_iff.2 fun same => news (Snapshot.sameState_put.1 same))

/-- A slice that was set is set. -/
theorem shows_put : (store.put a).current.Shows a :=
  -- What is committed is shown, but for its revision.
  (Snapshot.shows_congr (store.sameState_commit _)).1 Snapshot.shows_put

/-- Setting one slice leaves the others. -/
theorem shows_put_of_apart (apart : a.slice ≠ b.slice) :
    (store.put a).current.Shows b ↔ store.current.Shows b :=
  -- What is committed is shown, but for its revision.
  (Snapshot.shows_congr (store.sameState_commit _)).symm.trans
    (Snapshot.shows_put_of_apart apart)

/-- Setting a slice counts as one revision, unless it is set already. -/
theorem revision_put : (store.put a).current.revision =
    store.current.revision + if store.current.Shows a then 0 else 1 := by
  -- A commit counts if it shows something new, which is if the slice is not set.
  rw [put, commit_revision]
  simp only [Snapshot.sameState_put]

/-- Different slices may be set in either order, and count as many revisions in each. -/
theorem put_put (apart : a.slice ≠ b.slice) : (store.put a).put b = (store.put b).put a := by
  -- Whether a slice is set already is not changed by setting the other one.
  have leavesA : (store.put b).current.Shows a ↔ store.current.Shows a :=
    shows_put_of_apart apart.symm
  have leavesB : (store.put a).current.Shows b ↔ store.current.Shows b :=
    shows_put_of_apart apart
  by_cases shownA : store.current.Shows a
  · rw [put_of_shows shownA, put_of_shows (leavesA.2 shownA)]
  · by_cases shownB : store.current.Shows b
    · rw [put_of_shows shownB, put_of_shows (leavesB.2 shownB)]
    · -- Both are news in either order, so both orders make two revisions.
      rw [put_of_not_shows (mt leavesB.1 shownB), put_of_not_shows (mt leavesA.1 shownA),
        put_of_not_shows shownA, put_of_not_shows shownB]
      simp only [Snapshot.put_revision, Snapshot.put_put apart, Channel.publish]

end Store

namespace Dashboard

variable {dashboard : Dashboard} {a b : Setting}

/-- Sets a slice, which the widgets notice. -/
def put (dashboard : Dashboard) (a : Setting) : Dashboard :=
  (dashboard.withStore (dashboard.store.put a)).observeAll

/-- Different slices may be set in either order; the widgets only remember the last snapshot. -/
theorem put_put (apart : a.slice ≠ b.slice) :
    (dashboard.put a).put b = (dashboard.put b).put a := by
  -- What the widgets observed after the first setting is overwritten after the second.
  have once : ∀ first second : Setting, (dashboard.put first).put second =
      (dashboard.withStore ((dashboard.store.put first).put second)).observeAll := by
    intro first second
    have forgotten := mapSlots_observe_observe dashboard.slots
      (dashboard.store.put first).current ((dashboard.store.put first).put second).current
    exact congrArg (fun slots => { dashboard with
      store := (dashboard.store.put first).put second, slots }) forgotten
  rw [once a b, once b a, Store.put_put apart]

/-- An event that sets a slice does that, unless it is rejected. -/
theorem dispatch_setting {event : Event} (sets : event.setsSlice = true) :
    (dashboard.dispatch event).toOption = event.setting?.map dashboard.put := by
  -- Only a range and a zoom are checked before they are set.
  cases event with
  | setFilter d value | clearFilter d | clearZoom => rfl
  | setTimeRange start finish =>
    simp only [dispatch, handle, Event.setting?, map_map]
    cases TimeRange.between start finish <;> rfl
  | setZoom min max =>
    simp only [dispatch, handle, Event.setting?, map_map]
    cases Zoom.within min max <;> rfl
  | _ => cases sets

end Dashboard

namespace Session

variable {session : Session} {events order : List Event} {settings : List Setting} {a b : Setting}

/-- Dispatches events one after the other. -/
def dispatchAll (session : Session) (events : List Event) : Session :=
  events.foldl (fun session event => session.step (.dispatch event)) session

/-- The session after a slice was set. -/
def put (session : Session) (a : Setting) : Session :=
  { session with dashboard := session.dashboard.put a }

/-- An event that sets a slice does that, unless it is rejected; then it does nothing. -/
theorem step_setting {event : Event} (sets : event.setsSlice = true) :
    session.step (.dispatch event) = event.setting?.elim session session.put := by
  -- A session goes on with the dashboard that an accepted event has left.
  have goesOn : session.step (.dispatch event) = (session.dashboard.dispatch event).toOption.elim
      session fun dashboard => { session with dashboard } := by
    rw [step]
    cases session.dashboard.dispatch event <;> rfl
  rw [goesOn, Dashboard.dispatch_setting sets]
  cases event.setting? <;> rfl

/-- Events that set slices set them one after the other. -/
theorem dispatchAll_eq (sets : ∀ event ∈ events, event.setsSlice = true) :
    session.dispatchAll events = (events.filterMap Event.setting?).foldl put session := by
  -- The events without a setting are rejected ones, which lead nowhere.
  rw [List.foldl_filterMap]
  refine List.foldl_ext _ _ _ fun session event member => ?_
  rw [step_setting (sets event member)]
  cases event.setting? <;> rfl

/-- Settings of different slices lead to the same session in any order. -/
theorem foldl_put_perm {other : List Setting} (apart : (settings.map Setting.slice).Nodup)
    (perm : settings.Perm other) : settings.foldl put session = other.foldl put session := by
  -- Two settings of one slice could only be the same one.
  refine perm.foldl_eq' (fun a first b second session => ?_) session
  by_cases same : a.slice = b.slice
  · rw [List.inj_on_of_nodup_map apart first second same]
  · exact congrArg (fun dashboard => { session with dashboard }) (Dashboard.put_put same)

/-- Setting other slices does not matter for a slice. -/
theorem shows_foldl_put (apart : ∀ b ∈ settings, b.slice ≠ a.slice) :
    (settings.foldl put session).snapshot.Shows a ↔ session.snapshot.Shows a := by
  -- The induction is on the settings, none of which is of the slice.
  induction settings generalizing session with
  | nil => rfl
  | cons b settings ih =>
    obtain ⟨first, others⟩ := List.forall_mem_cons.1 apart
    exact (ih others).trans (Store.shows_put_of_apart first)

/-- In the end every slice is set that was to be set. -/
theorem shows_of_mem (apart : (settings.map Setting.slice).Nodup) (member : a ∈ settings) :
    (settings.foldl put session).snapshot.Shows a := by
  -- The induction is on the settings; those after the one for a slice leave it.
  induction settings generalizing session with
  | nil => cases member
  | cons b settings ih =>
    obtain ⟨fresh, apart⟩ := List.nodup_cons.1 apart
    rcases List.mem_cons.1 member with rfl | later
    · have others : ∀ c ∈ settings, c.slice ≠ a.slice := fun c other same =>
        fresh (same ▸ List.mem_map_of_mem other)
      exact (shows_foldl_put others).2 Store.shows_put
    · exact ih apart later

/-- Each slice that is not set already counts as one revision. -/
theorem revision_foldl_put (apart : (settings.map Setting.slice).Nodup) :
    (settings.foldl put session).snapshot.revision = session.snapshot.revision +
      settings.countP fun a => ¬session.snapshot.Shows a := by
  -- The induction is on the settings; the first one does not change what the others count.
  induction settings generalizing session with
  | nil => rfl
  | cons a settings ih =>
    obtain ⟨fresh, apart⟩ := List.nodup_cons.1 apart
    have counts : settings.countP (fun b => ¬(session.put a).snapshot.Shows b) =
        settings.countP fun b => ¬session.snapshot.Shows b := by
      refine List.countP_congr fun b member => ?_
      have distinct : a.slice ≠ b.slice := fun same => fresh (same ▸ List.mem_map_of_mem member)
      have leaves : (session.put a).snapshot.Shows b ↔ session.snapshot.Shows b :=
        Store.shows_put_of_apart distinct
      simp only [leaves]
    have first : (session.put a).snapshot.revision =
        session.snapshot.revision + if session.snapshot.Shows a then 0 else 1 :=
      Store.revision_put
    rw [List.foldl_cons, ih apart, counts, first, List.countP_cons]
    by_cases shown : session.snapshot.Shows a
    · simp [shown]
    · simp [shown]
      omega

/-- The key that a widget is at. -/
def keyOf (session : Session) (id : String) : Option QueryKey :=
  (session.slot? id).bind (·.tracker.current)

/-- An event would change the snapshot if it were dispatched now. -/
def isMovedBy (session : Session) (event : Event) : Bool :=
  (session.step (.dispatch event)).snapshot ≠ session.snapshot

/-- An event that sets a slice changes the snapshot unless it is rejected or shown already. -/
theorem isMovedBy_eq {event : Event} (sets : event.setsSlice = true) :
    session.isMovedBy event =
      (event.setting?.map fun a => decide ¬session.snapshot.Shows a).getD false := by
  rw [isMovedBy, step_setting sets]
  cases event.setting? with
  | none => simp
  | some a =>
    -- A slice that is not shown is shown afterwards, so the snapshot has changed.
    by_cases shown : session.snapshot.Shows a
    · have same : (session.put a).snapshot = session.snapshot :=
        congrArg Store.current (Store.put_of_shows shown)
      simp [same, shown]
    · have moved : (session.put a).snapshot ≠ session.snapshot := fun same =>
        shown (same ▸ Store.shows_put)
      simp [moved, shown]

/--
Events that set different slices may be dispatched in any order.

The snapshot is the same in the end, its revision included, and each widget is at the same key. The
revision counts the events that would change the snapshot on their own, and each event is in effect.
-/
theorem dispatchAll_perm (session : Session) (separate : OnOwnSlices events)
    (perm : order.Perm events) :
    (session.dispatchAll order).snapshot = (session.dispatchAll events).snapshot ∧
      (∀ id, (session.dispatchAll order).keyOf id = (session.dispatchAll events).keyOf id) ∧
      (session.dispatchAll order).snapshot.revision =
        session.snapshot.revision + events.countP session.isMovedBy ∧
      ∀ event ∈ events, (session.dispatchAll order).isMovedBy event = false := by
  have ⟨sets, apart⟩ := separate
  have setsOrder : ∀ event ∈ order, event.setsSlice = true := fun event member =>
    sets event (perm.mem_iff.1 member)
  -- Both orders lead to the same session, so the given one will do.
  have same : session.dispatchAll order = session.dispatchAll events := by
    rw [dispatchAll_eq setsOrder, dispatchAll_eq sets]
    exact (foldl_put_perm apart (perm.symm.filterMap _)).symm
  rw [same]
  refine ⟨rfl, fun _ => rfl, ?_, fun event member => ?_⟩
  · -- An event counts exactly if its setting does.
    have counts : events.countP session.isMovedBy =
        (events.filterMap Event.setting?).countP fun a => ¬session.snapshot.Shows a := by
      rw [List.countP_filterMap]
      exact List.countP_congr fun event member => by rw [isMovedBy_eq (sets event member)]
    rw [dispatchAll_eq sets, revision_foldl_put apart, counts]
  · -- Its slice is set in the end, so the event would not change anything again.
    rw [isMovedBy_eq (sets event member)]
    cases setting : event.setting? with
    | none => rfl
    | some a =>
      have shown : (session.dispatchAll events).snapshot.Shows a := by
        rw [dispatchAll_eq sets]
        exact shows_of_mem apart (List.mem_filterMap.2 ⟨event, member, setting⟩)
      simp [shown]

/-- A service, a range and a zoom are chosen; a range in reverse order is not valid. -/
def scattered : List Event :=
  [.setFilter .service (some "a"), .setTimeRange noon .epoch, .clearFilter .region,
    .setZoom none (some noon), .setTimeRange .epoch noon]

/-- Backwards, the same three of the five events count as revisions. -/
theorem dispatchAll_perm_scattered : Unrestricted .standard asked ∧ OnOwnSlices scattered ∧
    scattered.reverse.Perm scattered ∧
    (asked.dispatchAll scattered.reverse).snapshot = (asked.dispatchAll scattered).snapshot ∧
    (asked.dispatchAll scattered.reverse).keyOf "chart" =
      (asked.dispatchAll scattered).keyOf "chart" ∧
    (asked.dispatchAll scattered.reverse).snapshot.revision = 3 := by
  -- Only the number of revisions is evaluated.
  have run : Unrestricted .standard asked := (Run.start fresh_isStart).steps (by decide)
  have separate : OnOwnSlices scattered := ⟨by decide, by decide⟩
  have perm := List.reverse_perm scattered
  obtain ⟨snapshot, keys, revision, -⟩ := dispatchAll_perm asked separate perm
  exact ⟨run, separate, perm, snapshot, keys "chart", revision.trans (by decide)⟩

end Session

end Viewpoint
