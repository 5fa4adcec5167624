import Viewpoint.Proofs.Dashboard
import Viewpoint.Proofs.Query.History
import Viewpoint.Proofs.Query.Key
import Viewpoint.Proofs.Run

/-! Sessions: a dashboard with the fetches that it started and the answers that it accepted. -/

namespace Viewpoint

/-- One use of a dashboard. -/
inductive Operation where
  | setClock (now : Instant)
  | register (id : String) (widget : Widget)
  | dispatch (event : Event)
  | reconcile (candidates : Candidates)
  | startPending
  | complete (fetch : PendingFetch) (result : Except FetchFailure Response)

/--
A dashboard with what has happened to it: all fetches that it started, those that were not completed
yet, and the answers that it accepted, the latest first.
-/
structure Session where
  dashboard : Dashboard
  issued : List PendingFetch
  outstanding : List PendingFetch
  accepted : List (PendingFetch × Except FetchFailure Response)

namespace Session

/-- A session begins with a dashboard on which nothing was done. -/
def start (dashboard : Dashboard) : Session :=
  ⟨dashboard, [], [], []⟩

/-- The dashboard changes as an operation says, unless the operation was refused. -/
def become (session : Session) : Except Rejection Dashboard → Session
  | .ok dashboard => { session with dashboard }
  | .error _ => session

/-- The fetches that were started are out from now on. -/
def issue (session : Session) (pending : List PendingFetch) : Session :=
  { session with
    issued := session.issued ++ pending
    outstanding := session.outstanding ++ pending }

/-- A fetch is no longer out, and its answer is kept if it was accepted. -/
def land (session : Session) (fetch : PendingFetch) (result : Except FetchFailure Response)
    (isAccepted : Bool) : Session :=
  { session with
    outstanding := session.outstanding.filter (·.ticket ≠ fetch.ticket)
    accepted := if isAccepted then (fetch, result) :: session.accepted else session.accepted }

/-- Uses the dashboard once. -/
def step (session : Session) : Operation → Session
  | .setClock now => { session with dashboard := session.dashboard.setClock now }
  | .register id widget => session.become (session.dashboard.register id widget)
  | .dispatch event => session.become (session.dashboard.dispatch event)
  | .reconcile candidates =>
    { session with dashboard := (session.dashboard.reconcile candidates).2 }
  | .startPending =>
    { session with dashboard := session.dashboard.pendingFetches.2 }.issue
      session.dashboard.pendingFetches.1
  | .complete fetch result =>
    match session.dashboard.complete fetch.ticket result with
    | .ok (completion, dashboard) =>
      { session with dashboard }.land fetch result completion.isAccepted
    | .error _ => session

/-- A session begins with a dashboard that was created for a valid configuration. -/
def IsStart (config : Config) (session : Session) : Prop :=
  ∃ now dashboard, Dashboard.create config now = .ok dashboard ∧ session = start dashboard

/-- Only fetches that the dashboard has started are completed, though perhaps more than once. -/
def CompletesIssued (session : Session) : Operation → Prop
  | .complete fetch _ => fetch ∈ session.issued
  | _ => True

/-- Only fetches that are out are completed, so each of them is completed at most once. -/
def CompletesOutstanding (session : Session) : Operation → Prop
  | .complete fetch _ => fetch ∈ session.outstanding
  | _ => True

instance (session : Session) : ∀ operation, Decidable (session.CompletesIssued operation)
  | .complete fetch _ => inferInstanceAs (Decidable (fetch ∈ session.issued))
  | .setClock _ | .register _ _ | .dispatch _ | .reconcile _ | .startPending => isTrue trivial

instance (session : Session) : ∀ operation, Decidable (session.CompletesOutstanding operation)
  | .complete fetch _ => inferInstanceAs (Decidable (fetch ∈ session.outstanding))
  | .setClock _ | .register _ _ | .dispatch _ | .reconcile _ | .startPending => isTrue trivial

/-- The sessions in which fetches are completed in any order and any number of times. -/
abbrev Reachable (config : Config) : Session → Prop :=
  Run (IsStart config) step CompletesIssued

/-- The sessions in which each fetch is completed at most once. -/
abbrev Orderly (config : Config) : Session → Prop :=
  Run (IsStart config) step CompletesOutstanding

/-- The sessions in which anything is completed, even fetches that were never started. -/
abbrev Unrestricted (config : Config) : Session → Prop :=
  Run (IsStart config) step fun _ _ => True

/-- The snapshot that the dashboard shows. -/
def snapshot (session : Session) : Snapshot :=
  session.dashboard.snapshot

/-- The slot of a widget. -/
def slot? (session : Session) (id : String) : Option Slot :=
  session.dashboard.slots.get? id

/-- The fetches of a widget that are out. -/
def outstandingOf (session : Session) (id : String) : List PendingFetch :=
  session.outstanding.filter (·.ticket.widget = id)

/-- The last answer for a widget that was accepted, with the fetch that it belongs to. -/
def lastAccepted (session : Session) (id : String) :
    Option (PendingFetch × Except FetchFailure Response) :=
  session.accepted.find? fun answer => answer.1.ticket.widget = id

/-- The last data for a widget that was accepted. -/
def lastData (session : Session) (id : String) : Option Response :=
  session.accepted.findSome? fun (fetch, result) =>
    if fetch.ticket.widget = id then result.toOption else none

/-- A fetch asks for what its widget needed at some snapshot, and its ticket has the key of that. -/
def Asked (dashboard : Dashboard) (fetch : PendingFetch) : Prop :=
  ∃ slot snapshot, dashboard.slots.get? fetch.ticket.widget = some slot ∧
    fetch.ticket.key = slot.widget.key snapshot ∧ fetch.request = slot.widget.request snapshot

/-- No widget is removed or replaced. -/
def Keeps (before after : Dashboard) : Prop :=
  ∀ {id : String} {slot : Slot}, before.slots.get? id = some slot →
    ∃ later, after.slots.get? id = some later ∧ later.widget = slot.widget

/-- A dashboard agrees with what is known of its session. -/
structure Consistent (session : Session) : Prop where
  coherent : session.dashboard.Coherent
  asked : ∀ fetch ∈ session.issued, Asked session.dashboard fetch
  outstanding : ∀ fetch ∈ session.outstanding, fetch ∈ session.issued
  accepted : ∀ answer ∈ session.accepted, answer.1 ∈ session.issued
  data : ∀ {id : String} {slot : Slot}, session.slot? id = some slot →
    slot.data = session.lastData id

variable {session : Session} {dashboard after : Dashboard} {fetch : PendingFetch}

/-- A fetch goes on to be one that was asked for while no widget is removed. -/
theorem Asked.of_keeps (asked : Asked dashboard fetch) (keeps : Keeps dashboard after) :
    Asked after fetch := by
  -- Key and request depend on the widget and the old snapshot, and neither changes.
  obtain ⟨slot, snapshot, found, key, request⟩ := asked
  obtain ⟨later, foundLater, widget⟩ := keeps found
  exact ⟨later, snapshot, foundLater, widget ▸ key, widget ▸ request⟩

/-- A fetch that is started asks for what its widget needs now. -/
theorem asked_of_mem_pendingFetches (coherent : dashboard.Coherent)
    (pending : fetch ∈ dashboard.pendingFetches.1) : Asked dashboard fetch := by
  -- The fetch comes from a slot of the list, which is at its key for the current snapshot.
  obtain ⟨⟨id, slot⟩, member, begun⟩ := List.mem_filterMap.1 pending
  have found := (Slots.mem_iff_get? coherent.distinct).1 member
  obtain ⟨_, owner, position, request⟩ := Dashboard.of_beginFetch_eq_some begun
  rw [coherent.observed found, Option.some.injEq] at position
  exact ⟨slot, dashboard.snapshot, by rw [owner, coherent.named found, found], position.symm,
    request⟩

/-- Slots that are changed in place keep their widgets when the change does. -/
theorem keeps_of_map {change : String → Slot → Slot}
    (changed : ∀ id, after.slots.get? id = (dashboard.slots.get? id).map (change id))
    (widget : ∀ id slot, (change id slot).widget = slot.widget) : Keeps dashboard after := by
  -- Each slot that is found stays found, in its new form.
  intro id slot found
  exact ⟨change id slot, by rw [changed, found, Option.map_some], widget id slot⟩

/-- A new dashboard agrees with a session in which nothing was done. -/
theorem consistent_start {config : Config} (started : IsStart config session) :
    session.Consistent := by
  -- Without widgets, fetches and answers there is nothing to check.
  obtain ⟨now, dashboard, created, rfl⟩ := started
  have empty := Dashboard.create_slots created
  constructor
  case coherent => exact Dashboard.coherent_of_slots_eq_nil empty
  case data => simp [start, slot?, empty, Slots.get?]
  all_goals simp [start]

/-- Slots that are changed in place, with their widgets and data kept, agree with the session. -/
theorem Consistent.of_map (change : String → Slot → Slot) (consistent : session.Consistent)
    (coherent : after.Coherent)
    (changed : ∀ id, after.slots.get? id = (session.slot? id).map (change id))
    (widget : ∀ id slot, (change id slot).widget = slot.widget)
    (data : ∀ id slot, (change id slot).data = slot.data) :
    Consistent { session with dashboard := after } where
  coherent := coherent
  asked fetch issued := (consistent.asked fetch issued).of_keeps (keeps_of_map changed widget)
  outstanding := consistent.outstanding
  accepted := consistent.accepted
  data := by
    intro id slot found
    rw [slot?, changed] at found
    -- A slot keeps its data, and the answers are the same ones.
    obtain ⟨before, foundBefore, rfl⟩ := Option.map_eq_some_iff.1 found
    rw [data, consistent.data foundBefore]
    rfl

/-- A refused operation changes nothing, so only an accepted one has to be looked at. -/
theorem become_of (property : Session → Prop) {result : Except Rejection Dashboard}
    (refused : property session)
    (accepted : ∀ after, result = .ok after → property { session with dashboard := after }) :
    property (session.become result) := by
  -- The session only sees the dashboard of an accepted operation.
  cases result with
  | error rejection => exact refused
  | ok after => exact accepted after rfl

/-- Moving the clock touches no slot. -/
theorem Consistent.setClock (consistent : session.Consistent) (now : Instant) :
    (session.step (.setClock now)).Consistent :=
  -- The slots are those before, as if each was left in place.
  consistent.of_map (fun _ slot => slot)
    ⟨consistent.coherent.distinct, consistent.coherent.named, consistent.coherent.observed⟩
    (fun _ => Option.map_id'.symm) (fun _ _ => rfl) fun _ _ => rfl

/-- Slots that notice a snapshot agree with the session as before. -/
theorem Consistent.of_observe (consistent : session.Consistent)
    (noticed : after.slots = session.dashboard.slots.mapSlots (·.observe after.snapshot)) :
    Consistent { session with dashboard := after } :=
  -- To notice a snapshot changes neither the fetches of a slot nor its data.
  consistent.of_map (fun _ slot => slot.observe after.snapshot)
    (consistent.coherent.of_observe noticed) (fun id => by rw [noticed, Slots.get?_mapSlots]; rfl)
    (fun _ _ => rfl) fun _ _ => rfl

/-- No fetch was started for a name that no widget has. -/
theorem Consistent.not_issued (consistent : session.Consistent) {id : String}
    (fresh : session.slot? id = none) (issued : fetch ∈ session.issued) :
    fetch.ticket.widget ≠ id := by
  -- Every fetch was asked for by a widget that is still there.
  rintro rfl
  obtain ⟨slot, _, found, _⟩ := consistent.asked fetch issued
  rw [slot?, found] at fresh
  cases fresh

/-- No fetch is out for a name that no widget has. -/
theorem Consistent.outstandingOf_eq_nil (consistent : session.Consistent) {id : String}
    (fresh : session.slot? id = none) : session.outstandingOf id = [] := by
  -- What is out was issued, and nothing was issued for such a name.
  refine List.filter_eq_nil_iff.2 fun fetch out => ?_
  simpa using consistent.not_issued fresh (consistent.outstanding fetch out)

/-- No answer was accepted for a name that no widget has. -/
theorem Consistent.lastAccepted_eq_none (consistent : session.Consistent) {id : String}
    (fresh : session.slot? id = none) : session.lastAccepted id = none := by
  -- What was accepted was issued, and nothing was issued for such a name.
  refine List.find?_eq_none.2 fun answer kept => ?_
  simpa using consistent.not_issued fresh (consistent.accepted answer kept)

/-- No data was accepted for a name that no widget has. -/
theorem Consistent.lastData_eq_none (consistent : session.Consistent) {id : String}
    (fresh : session.slot? id = none) : session.lastData id = none := by
  -- Data come with accepted answers, and none was accepted for such a name.
  refine List.findSome?_eq_none_iff.2 fun answer kept => ?_
  exact if_neg (consistent.not_issued fresh (consistent.accepted answer kept))

/-- A new widget has no data, and nothing was accepted for it. -/
theorem Consistent.register (consistent : session.Consistent) {id : String} {widget : Widget}
    (registered : session.dashboard.register id widget = .ok after) :
    Consistent { session with dashboard := after } := by
  have coherent := consistent.coherent.register registered
  -- The new name is on no fetch and no answer, so only the old widgets matter to them.
  obtain ⟨fresh, rfl⟩ := Dashboard.register_eq_ok registered
  have keeps : Keeps session.dashboard { session.dashboard with
      slots := session.dashboard.slots.insert id
        (.create id widget session.dashboard.snapshot) } := by
    intro name slot found
    have apart : name ≠ id := by
      rintro rfl
      rw [fresh] at found
      cases found
    exact ⟨slot, by rw [Slots.get?_insert fresh, if_neg apart, found], rfl⟩
  exact {
    coherent
    asked := fun fetch issued => (consistent.asked fetch issued).of_keeps keeps
    outstanding := consistent.outstanding
    accepted := consistent.accepted
    data := by
      intro name slot found
      rw [slot?, Slots.get?_insert fresh] at found
      split at found
      · rename_i same
        cases found
        rw [same]
        exact (consistent.lastData_eq_none fresh).symm
      · exact consistent.data found }

/-- Starting fetches keeps the data, and each fetch asks for what its widget needs now. -/
theorem Consistent.startPending (consistent : session.Consistent) :
    (session.step .startPending).Consistent := by
  -- The slots go through the start of their fetches, and the new fetches join the old ones.
  have changed : ∀ id, session.dashboard.pendingFetches.2.slots.get? id =
      (session.slot? id).map fun slot => (Dashboard.beginFetch session.snapshot slot).2 :=
    session.dashboard.get?_pendingFetches
  have started := consistent.of_map (fun _ slot => (Dashboard.beginFetch session.snapshot slot).2)
    consistent.coherent.pendingFetches changed
    (fun _ slot => (Dashboard.beginFetch_unmoved slot session.snapshot).1)
    (fun _ slot => (Dashboard.beginFetch_unmoved slot session.snapshot).2.2.2)
  have keeps : Keeps session.dashboard session.dashboard.pendingFetches.2 :=
    keeps_of_map changed fun _ slot => (Dashboard.beginFetch_unmoved slot session.snapshot).1
  exact {
    coherent := started.coherent
    asked := by
      intro fetch issued
      rcases List.mem_append.1 issued with before | new
      · exact started.asked fetch before
      · exact (asked_of_mem_pendingFetches consistent.coherent new).of_keeps keeps
    outstanding := by
      intro fetch out
      rcases List.mem_append.1 out with before | new
      · exact List.mem_append_left _ (consistent.outstanding fetch before)
      · exact List.mem_append_right _ new
    accepted := fun answer kept => List.mem_append_left _ (consistent.accepted answer kept)
    data := started.data }

/-- Completing a fetch that was started is to take its answer in one of the possible ways. -/
theorem Consistent.step_complete (consistent : session.Consistent)
    (issued : fetch ∈ session.issued) (result : Except FetchFailure Response) :
    ∃ slot completion after, session.slot? fetch.ticket.widget = some slot ∧
      session.dashboard.complete fetch.ticket result = .ok (completion, after) ∧
      session.dashboard.Completes fetch.ticket slot result completion after ∧
      session.step (.complete fetch result) =
        { session with dashboard := after }.land fetch result completion.isAccepted := by
  -- The fetch was asked for, so its widget is registered and the completion is not refused.
  obtain ⟨slot, _, found, _⟩ := consistent.asked fetch issued
  obtain ⟨completion, after, completed, completes⟩ :=
    Dashboard.complete_spec consistent.coherent.distinct found result
  exact ⟨slot, completion, after, found, completed, completes, by simp only [step, completed]⟩

/-- A kept answer is the last one for its widget and leaves those for others. -/
theorem lastData_land (result : Except FetchFailure Response) (isAccepted : Bool) (id : String) :
    (session.land fetch result isAccepted).lastData id =
      if isAccepted ∧ fetch.ticket.widget = id then result.toOption.or (session.lastData id)
      else session.lastData id := by
  -- A discarded answer is not kept, and a failure is passed over for the data before it.
  cases isAccepted with
  | false => simp [land, lastData]
  | true =>
    by_cases own : fetch.ticket.widget = id
    · cases result <;> simp [land, lastData, own, Except.toOption]
    · simp [land, lastData, own]

/-- The data of the widget that an accepted answer belongs to is that answer's, if it has any. -/
theorem Consistent.complete (consistent : session.Consistent) (issued : fetch ∈ session.issued)
    (result : Except FetchFailure Response) :
    (session.step (.complete fetch result)).Consistent := by
  -- The settled slot gains the data of the answer exactly when the session keeps the answer.
  obtain ⟨slot, completion, after, found, _, completes, stepped⟩ :=
    consistent.step_complete issued result
  have changed := completes.get? consistent.coherent
  have keeps : Keeps session.dashboard after :=
    keeps_of_map changed fun id present => by split <;> rfl
  rw [stepped]
  exact {
    coherent := consistent.coherent.completes completes
    asked := fun fetch issued => (consistent.asked fetch issued).of_keeps keeps
    outstanding := fun other out => consistent.outstanding other (List.mem_filter.1 out).1
    accepted := by
      intro answer kept
      simp only [land] at kept
      split at kept
      · rcases List.mem_cons.1 kept with rfl | before
        · exact issued
        · exact consistent.accepted answer before
      · exact consistent.accepted answer kept
    data := by
      intro id present foundAfter
      rw [slot?, land, changed] at foundAfter
      obtain ⟨before, foundBefore, rfl⟩ := Option.map_eq_some_iff.1 foundAfter
      simp only [lastData_land, completes.isAccepted_iff]
      have known := consistent.data foundBefore
      by_cases own : id = fetch.ticket.widget
      · subst own
        cases found.symm.trans foundBefore
        simp only [if_true, Slot.observe, Slot.settle_data, known, and_true]
        rfl
      · simp only [own, if_false, Slot.observe, known, Ne.symm own, and_false]
        rfl }

/-- Every admitted operation keeps a session consistent. -/
theorem Consistent.step (consistent : session.Consistent) {operation : Operation}
    (admitted : session.CompletesIssued operation) : (session.step operation).Consistent := by
  -- One case for each operation; a refused one has changed nothing.
  cases operation with
  | setClock now => exact consistent.setClock now
  | register id widget => exact become_of Consistent consistent fun _ => consistent.register
  | dispatch event =>
    exact become_of Consistent consistent fun _ dispatched =>
      consistent.of_observe (Dashboard.dispatch_slots dispatched)
  | reconcile candidates => exact consistent.of_observe (Dashboard.reconcile_slots candidates)
  | startPending => exact consistent.startPending
  | complete fetch result => exact consistent.complete admitted result

/-- Every reachable session is consistent. -/
theorem Reachable.consistent {config : Config} (reachable : Reachable config session) :
    session.Consistent := by
  -- The induction is on the operations of the session, the latest one last.
  induction reachable with
  | start started => exact consistent_start started
  | step _ admitted consistent => exact consistent.step admitted

/-- A fetch that is out is one that was started. -/
theorem Consistent.completesIssued (consistent : session.Consistent) {operation : Operation}
    (admitted : session.CompletesOutstanding operation) : session.CompletesIssued operation := by
  -- Only answers are restricted.
  cases operation with
  | complete fetch result => exact consistent.outstanding fetch admitted
  | _ => trivial

/-- A session in which each fetch is completed at most once is reachable. -/
theorem Orderly.reachable {config : Config} (orderly : Orderly config session) :
    Reachable config session := by
  -- Consistency tells at each step that what is out was started.
  induction orderly with
  | start started => exact .start started
  | step _ admitted reachable =>
    exact reachable.step ((Reachable.consistent reachable).completesIssued admitted)

/-- The tracker of each widget went through an orderly run with the fetches of the widget. -/
def Tracked (session : Session) : Prop :=
  ∀ {id : String} {slot : Slot}, session.slot? id = some slot →
    slot.tracker.HasHistory ((session.outstandingOf id).map (·.ticket))
      ((session.lastAccepted id).map fun answer => (answer.1.ticket, answer.2))

/-- Slots that notice a snapshot are tracked as before. -/
theorem Tracked.of_observe (tracked : session.Tracked)
    (noticed : after.slots = session.dashboard.slots.mapSlots (·.observe after.snapshot)) :
    Tracked { session with dashboard := after } := by
  -- The history of each tracker goes on by one more key.
  intro id slot found
  rw [slot?, noticed, Slots.get?_mapSlots] at found
  obtain ⟨before, foundBefore, rfl⟩ := Option.map_eq_some_iff.1 found
  exact (tracked foundBefore).observe _

/-- A new widget is tracked from its start, since nothing was started for its name. -/
theorem Tracked.register (tracked : session.Tracked) (consistent : session.Consistent)
    {id : String} {widget : Widget}
    (registered : session.dashboard.register id widget = .ok after) :
    Tracked { session with dashboard := after } := by
  -- The history of the new tracker begins here, that of the others goes on.
  obtain ⟨fresh, rfl⟩ := Dashboard.register_eq_ok registered
  intro name slot found
  rw [slot?, Slots.get?_insert fresh] at found
  split at found
  · rename_i same
    cases found
    subst same
    have quiet := consistent.outstandingOf_eq_nil fresh
    have unanswered := consistent.lastAccepted_eq_none fresh
    simp only [outstandingOf, lastAccepted] at quiet unanswered ⊢
    rw [quiet, unanswered]
    exact (Tracker.HasHistory.new name).observe _
  · exact tracked found

/-- The fetches of a widget that are out are those from before and the one that its slot starts. -/
theorem Consistent.outstandingOf_startPending (consistent : session.Consistent) {id : String}
    {slot : Slot} (found : session.slot? id = some slot) :
    (session.step .startPending).outstandingOf id = session.outstandingOf id ++
      (Dashboard.beginFetch session.snapshot slot).1.toList := by
  -- Fetches are told apart by the names on their tickets.
  have started := consistent.coherent.filter_pendingFetches id
  rw [slot?] at found
  rw [found] at started
  change (session.outstanding ++ session.dashboard.pendingFetches.1).filter
    (·.ticket.widget = id) = _
  rw [List.filter_append, started]
  rfl

/-- Each widget is tracked through the fetch that it starts. -/
theorem Tracked.startPending (tracked : session.Tracked) (consistent : session.Consistent) :
    (session.step .startPending).Tracked := by
  -- A slot that needs no fetch goes on as it was; any other one begins.
  intro id slot found
  have changed := session.dashboard.get?_pendingFetches id
  obtain ⟨before, foundBefore, rfl⟩ := Option.map_eq_some_iff.1 (changed.symm.trans found)
  rw [consistent.outstandingOf_startPending foundBefore, List.map_append]
  have past := tracked foundBefore
  change Tracker.HasHistory (Dashboard.beginFetch session.snapshot before).2.tracker _
    ((session.lastAccepted id).map _)
  cases needed : before.tracker.needsFetch with
  | false => simpa [Dashboard.beginFetch_of_not_needsFetch needed] using past
  | true =>
    obtain ⟨key, position⟩ := Tracker.current_of_needsFetch needed
    rw [Dashboard.beginFetch_of_needsFetch position needed]
    exact past.start position needed

/-- The tickets of a widget that are out after a completion are all but the completed one. -/
theorem outstandingOf_land (result : Except FetchFailure Response) (isAccepted : Bool)
    (id : String) :
    ((session.land fetch result isAccepted).outstandingOf id).map (·.ticket) =
      ((session.outstandingOf id).map (·.ticket)).filter (· ≠ fetch.ticket) := by
  -- Both sides filter by name and by ticket, in different order.
  simp only [outstandingOf, land, List.filter_filter, List.filter_map]
  congr 1
  exact List.filter_congr fun other _ => Bool.and_comm _ _

/-- An accepted answer is the last one for its widget and leaves those for others. -/
theorem lastAccepted_land (result : Except FetchFailure Response) (isAccepted : Bool)
    (id : String) :
    (session.land fetch result isAccepted).lastAccepted id =
      if isAccepted ∧ fetch.ticket.widget = id then some (fetch, result)
      else session.lastAccepted id := by
  -- The latest answer comes first, so the search for its widget ends there.
  cases isAccepted with
  | false => simp [land, lastAccepted]
  | true => by_cases own : fetch.ticket.widget = id <;> simp [land, lastAccepted, own]

/-- Each widget is tracked through the completion of a fetch that was out. -/
theorem Tracked.complete (tracked : session.Tracked) (consistent : session.Consistent)
    (out : fetch ∈ session.outstanding) (result : Except FetchFailure Response) :
    (session.step (.complete fetch result)).Tracked := by
  -- The tracker that the ticket belongs to settles it; the others only notice the snapshot.
  obtain ⟨slot, completion, after, found, _, completes, stepped⟩ :=
    consistent.step_complete (consistent.outstanding fetch out) result
  have changed := completes.get? consistent.coherent
  rw [stepped]
  intro id present foundAfter
  obtain ⟨before, foundBefore, rfl⟩ := Option.map_eq_some_iff.1 ((changed id).symm.trans foundAfter)
  have past := tracked foundBefore
  rw [outstandingOf_land]
  simp only [lastAccepted_land, completes.isAccepted_iff]
  by_cases own : id = fetch.ticket.widget
  · subst own
    cases found.symm.trans foundBefore
    have outHere : fetch.ticket ∈ (session.outstandingOf fetch.ticket.widget).map (·.ticket) :=
      List.mem_map_of_mem (List.mem_filter.2 ⟨out, by simp⟩)
    have settled := (past.settle outHere result).observe (slot.widget.key after.snapshot)
    simp only [if_true, and_true, apply_ite (Option.map _), Option.map_some]
    exact settled
  · -- No ticket of another widget is the completed one.
    have apart : ∀ ticket ∈ (session.outstandingOf id).map (·.ticket), ticket ≠ fetch.ticket := by
      intro ticket member same
      obtain ⟨other, outThere, rfl⟩ := List.mem_map.1 member
      have name : other.ticket.widget = id := by simpa using (List.mem_filter.1 outThere).2
      exact own (name.symm.trans (congrArg Ticket.widget same))
    have untouched : ((session.outstandingOf id).map (·.ticket)).filter (· ≠ fetch.ticket) =
        (session.outstandingOf id).map (·.ticket) :=
      List.filter_eq_self.2 fun ticket member => by simpa using apart ticket member
    have observed := past.observe (before.widget.key after.snapshot)
    rw [← untouched] at observed
    simp only [own, Ne.symm own, if_false, and_false]
    exact observed

/-- Every operation of an orderly session keeps its widgets tracked. -/
theorem Tracked.step (tracked : session.Tracked) (consistent : session.Consistent)
    {operation : Operation} (admitted : session.CompletesOutstanding operation) :
    (session.step operation).Tracked := by
  -- One case for each operation, as for consistency.
  cases operation with
  | setClock now => exact tracked
  | register id widget =>
    exact become_of Tracked tracked fun _ => tracked.register consistent
  | dispatch event =>
    exact become_of Tracked tracked fun _ dispatched =>
      tracked.of_observe (Dashboard.dispatch_slots dispatched)
  | reconcile candidates => exact tracked.of_observe (Dashboard.reconcile_slots candidates)
  | startPending => exact tracked.startPending consistent
  | complete fetch result => exact tracked.complete consistent admitted result

/-- Every widget of an orderly session is tracked. -/
theorem Orderly.tracked {config : Config} (orderly : Orderly config session) :
    session.Tracked := by
  -- The histories of the trackers grow along with the session.
  induction orderly with
  | start started =>
    obtain ⟨now, dashboard, created, rfl⟩ := started
    intro id slot found
    simp [slot?, start, Dashboard.create_slots created, Slots.get?] at found
  | step before admitted tracked =>
    exact tracked.step (Reachable.consistent (Orderly.reachable before)) admitted

/-- Noon of 1 June 2024. -/
def noon : Instant :=
  ⟨1717243200, 0, by decide, Instant.zero_lt_twoSeconds⟩

/-- The day that ends at noon. -/
def lastDay : TimeRange :=
  ⟨⟨1717156800, 0, by decide, Instant.zero_lt_twoSeconds⟩, noon, some .last24Hours⟩

/-- A session on a new dashboard with the standard settings. -/
def fresh : Session :=
  start {
    config := .standard
    store := {
      presets := Preset.standards
      navigator := ⟨.sticky, .standard⟩
      now := noon
      current := .initial lastDay
      updates := .opening (.initial lastDay) }
    reconciler := .standard
    brush := .clean
    candidates := .none
    slots := [] }

/-- Creating a dashboard with the standard settings at noon gives the fresh one. -/
theorem fresh_isStart : IsStart .standard fresh :=
  -- The standard settings are valid, so the dashboard is made.
  ⟨noon, _, rfl, rfl⟩

/-- Two candidates for the metric are loaded. -/
def loadMetrics : Operation :=
  .dispatch (.optionsLoaded (Candidates.none.set .metricName ["latency", "cpu"]))

/-- The candidates are loaded before anything else is done. -/
def listed : Session :=
  fresh.step loadMetrics

/-- A chart of the average of each region. -/
def chart : Widget :=
  .aggregated .region .avg

/-- The first fetch of the chart, before any filter was set. -/
def chartFetch : PendingFetch :=
  ⟨⟨"chart", 0, chart.key (.initial lastDay)⟩, chart.request (.initial lastDay)⟩

/-- An answer without rows. -/
def chartAnswer : Except FetchFailure Response :=
  .ok (.aggregated ⟨[], .region, "latency", .avg⟩)

/-- The first fetch of the chart is out. -/
def asked : Session :=
  [.register "chart" chart, .startPending].foldl step fresh

/-- The filter is set while the first fetch is out, so the chart needs another one. -/
def filtered : Session :=
  asked.step (.dispatch (.setFilter .service (some "a")))

/-- The first fetch is answered while the chart needs its answer. -/
def answered : Session :=
  asked.step (.complete chartFetch chartAnswer)

/--
The second fetch is out when the filter is cleared, the first fetch is answered, and the filter is
set again.
-/
def overtaken : Session :=
  [.startPending, .dispatch (.clearFilter .service), .complete chartFetch chartAnswer,
    .dispatch (.setFilter .service (some "a"))].foldl step filtered

/-- Nothing is answered before the first fetch is out. -/
theorem asked_orderly : Orderly .standard asked :=
  -- All that is done admits itself, step by step.
  (Run.start fresh_isStart).steps (by decide)

/-- Setting the filter answers nothing. -/
theorem filtered_orderly : Orderly .standard filtered :=
  -- An event is always orderly.
  asked_orderly.step trivial

/-- The chart is the one that was registered. -/
theorem filtered_widget {slot : Slot} (found : filtered.slot? "chart" = some slot) :
    slot.widget = chart := by
  -- The slot is looked up in the evaluated session.
  have known : (filtered.slot? "chart").map (·.widget) = some chart := by rfl
  simpa [found] using known

/-- The first fetch is out when it is answered. -/
theorem answered_orderly : Orderly .standard answered :=
  -- The answer is for the fetch that is out.
  asked_orderly.step (by decide)

/-- The first fetch is answered once. -/
theorem overtaken_orderly : Orderly .standard overtaken :=
  -- The answer comes after the filter, but still for a fetch that is out.
  filtered_orderly.steps (by decide)

end Session

end Viewpoint
