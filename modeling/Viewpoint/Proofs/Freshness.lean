import Viewpoint.Proofs.Session

/-! Answers reach the widgets that still ask for them, and every fetch that is needed is started. -/

namespace Viewpoint

namespace Dashboard

/-- The data of a widget. -/
def dataOf (dashboard : Dashboard) (id : String) : Option Response :=
  (dashboard.slots.get? id).bind (·.data)

variable {dashboard after : Dashboard} {ticket : Ticket} {slot : Slot}
  {result : Except FetchFailure Response} {completion : Completion Reconciliation}

/-- An answer that brings no data leaves the data of all widgets. -/
theorem dataOf_settled (found : dashboard.slots.get? ticket.widget = some slot)
    (plain : slot.tracker.current = some ticket.key → result.toOption = none) (id : String) :
    (dashboard.settled ticket result).dataOf id = dashboard.dataOf id := by
  -- Only the slot of the ticket is settled, and it keeps its data unless a response is accepted.
  rw [dataOf, dataOf, get?_settled, Option.bind_map]
  cases foundThere : dashboard.slots.get? id with
  | none => rfl
  | some present =>
    by_cases own : id = ticket.widget
    · subst own
      cases found.symm.trans foundThere
      by_cases position : slot.tracker.current = some ticket.key
      · simp [Slot.settle_data, plain position]
      · simp [Slot.settle_data, position]
    · simp [own]

/-- An answer that is not ready leaves the snapshot, the data, the candidates and the latches. -/
theorem Completes.unchanged (found : dashboard.slots.get? ticket.widget = some slot)
    (completes : Completes dashboard ticket slot result completion after)
    (unready : ∀ changes, completion ≠ .ready changes) :
    after.snapshot = dashboard.snapshot ∧ (∀ id, after.dataOf id = dashboard.dataOf id) ∧
      after.candidates = dashboard.candidates ∧ after.reconciler = dashboard.reconciler := by
  -- A discarded answer meets another key, and a failed one has no response.
  cases completes with
  | discarded elsewhere =>
    exact ⟨rfl, dataOf_settled found fun position => absurd position elsewhere, rfl, rfl⟩
  | failed => exact ⟨rfl, dataOf_settled found fun _ => rfl, rfl, rfl⟩
  | stored | reconciled => exact absurd rfl (unready _)

end Dashboard

namespace Session

variable {config : Config} {session : Session} {fetch other : PendingFetch} {id : String}
  {slot : Slot}

/-- The fetches of one widget have equal requests exactly when their tickets have equal keys. -/
theorem Consistent.request_eq_iff_key_eq (consistent : session.Consistent)
    (issued : fetch ∈ session.issued) (otherIssued : other ∈ session.issued)
    (same : fetch.ticket.widget = other.ticket.widget) :
    fetch.request = other.request ↔ fetch.ticket.key = other.ticket.key := by
  -- Both fetches were made by the same widget, each at a snapshot of its own.
  obtain ⟨slot, snapshot, found, key, request⟩ := consistent.asked fetch issued
  obtain ⟨otherSlot, otherSnapshot, otherFound, otherKey, otherRequest⟩ :=
    consistent.asked other otherIssued
  rw [← same, found] at otherFound
  cases otherFound
  rw [key, request, otherKey, otherRequest]
  exact slot.widget.request_eq_iff_key_eq

/-- A fetch has the request that its widget needs now when the widget is at the key it is for. -/
theorem Consistent.request_eq_iff_current (consistent : session.Consistent)
    (issued : fetch ∈ session.issued) (found : session.slot? fetch.ticket.widget = some slot) :
    fetch.request = slot.widget.request session.snapshot ↔
      slot.tracker.current = some fetch.ticket.key := by
  -- Coherence puts the widget at its key for the current snapshot.
  obtain ⟨asker, snapshot, foundAsker, key, request⟩ := consistent.asked fetch issued
  cases found.symm.trans foundAsker
  rw [consistent.coherent.observed found, Option.some.injEq, request, key]
  exact slot.widget.request_eq_iff_key_eq.trans eq_comm

/--
The answer to a fetch is accepted exactly when the fetch has the request that its widget needs now;
otherwise it is discarded. Unless it is ready, nothing changes that a user can see but a status.
-/
theorem complete_accepted_iff (reachable : Reachable config session)
    (issued : fetch ∈ session.issued) (result : Except FetchFailure Response) :
    ∃ slot completion after, session.slot? fetch.ticket.widget = some slot ∧
      session.dashboard.complete fetch.ticket result = .ok (completion, after) ∧
      (((∃ changes, completion = .ready changes) ∨ ∃ failure, completion = .failed failure) ↔
        fetch.request = slot.widget.request session.snapshot) ∧
      (completion = .discarded ↔ fetch.request ≠ slot.widget.request session.snapshot) ∧
      ((∀ changes, completion ≠ .ready changes) →
        after.snapshot = session.snapshot ∧
          (∀ id, after.dataOf id = session.dashboard.dataOf id) ∧
          after.candidates = session.dashboard.candidates ∧
          after.reconciler = session.dashboard.reconciler) := by
  -- The code compares keys, which invariants of the session turn into requests.
  have consistent := Reachable.consistent reachable
  obtain ⟨slot, completion, after, found, completed, completes, _⟩ :=
    consistent.step_complete issued result
  refine ⟨slot, completion, after, found, completed, ?_, ?_, completes.unchanged found⟩
  · rw [consistent.request_eq_iff_current issued found, ← completes.isAccepted_iff]
    cases completion <;> simp [Completion.isAccepted]
  · rw [ne_eq, consistent.request_eq_iff_current issued found, ← completes.isAccepted_iff]
    cases completion <;> simp [Completion.isAccepted]

/-- Once the filter is set, the answer to the first fetch is discarded and changes nothing. -/
theorem complete_accepted_iff_filtered :
    chartFetch ∈ filtered.issued ∧ ∃ after,
      filtered.dashboard.complete chartFetch.ticket chartAnswer = .ok (.discarded, after) ∧
      after.snapshot = filtered.snapshot ∧
      (∀ id, after.dataOf id = filtered.dashboard.dataOf id) ∧
      after.candidates = filtered.dashboard.candidates ∧
      after.reconciler = filtered.dashboard.reconciler := by
  -- The fetch was started before the filter, so its request is no longer the one that is needed.
  have issued : chartFetch ∈ filtered.issued := by decide
  obtain ⟨slot, completion, after, found, completed, _, discarded, unchanged⟩ :=
    complete_accepted_iff (Orderly.reachable filtered_orderly) issued chartAnswer
  have outdated : completion = .discarded := by
    refine discarded.2 ?_
    rw [filtered_widget found]
    decide
  subst outdated
  exact ⟨issued, after, completed, unchanged (by simp)⟩

/-- A fetch of a widget that is out was started for that widget. -/
theorem Consistent.of_mem_outstandingOf (consistent : session.Consistent)
    (out : fetch ∈ session.outstandingOf id) :
    fetch ∈ session.issued ∧ fetch.ticket.widget = id := by
  -- The fetches that are out for a widget are selected by its name.
  obtain ⟨member, own⟩ := List.mem_filter.1 out
  exact ⟨consistent.outstanding fetch member, by simpa using own⟩

/-- The last accepted answer of a widget belongs to a fetch that was started for it. -/
theorem Consistent.of_lastAccepted {result : Except FetchFailure Response}
    (consistent : session.Consistent) (last : session.lastAccepted id = some (fetch, result)) :
    fetch ∈ session.issued ∧ fetch.ticket.widget = id := by
  -- The last accepted answer is found by the name of its widget.
  have own := List.find?_some last
  exact ⟨consistent.accepted _ (List.mem_of_find?_eq_some last), by simpa using own⟩

/-- The key that was answered last is that of the fetch of the last accepted answer. -/
theorem Orderly.completed_eq (orderly : Orderly config session)
    (found : session.slot? id = some slot) :
    slot.tracker.completed = (session.lastAccepted id).map fun answer => answer.1.ticket.key := by
  -- The history of the tracker knows the ticket of the last accepted answer.
  obtain ⟨history, run, same, _, accepted⟩ := Orderly.tracked orderly found
  rw [← same, (Tracker.History.OrderlyRun.faithful run).completed, accepted, Option.map_map]
  rfl

/-- The keys that a tracker holds as out are those of the fetches of its widget that are out. -/
theorem Orderly.keysOut_eq (orderly : Orderly config session)
    (found : session.slot? id = some slot) :
    slot.tracker.keysOut = (session.outstandingOf id).map (·.ticket.key) := by
  -- The history of the tracker has the tickets of the fetches that are out.
  obtain ⟨history, run, same, outstanding, _⟩ := Orderly.tracked orderly found
  rw [← same, (Tracker.History.OrderlyRun.faithful run).keysOut, outstanding, List.map_map]
  rfl

/--
A widget needs a fetch exactly when the request that it needs now is neither that of its last
accepted answer nor that of any fetch that is out.
-/
theorem Orderly.needsFetch_iff (orderly : Orderly config session)
    (found : session.slot? id = some slot) :
    slot.tracker.needsFetch = true ↔
      (∀ fetch result, session.lastAccepted id = some (fetch, result) →
        fetch.request ≠ slot.widget.request session.snapshot) ∧
      ∀ fetch ∈ session.outstandingOf id,
        fetch.request ≠ slot.widget.request session.snapshot := by
  have consistent := Reachable.consistent (Orderly.reachable orderly)
  have position := consistent.coherent.observed found
  -- Either fetch is compared with the present request by its key.
  have compare : ∀ fetch ∈ session.issued, fetch.ticket.widget = id →
      (fetch.request ≠ slot.widget.request session.snapshot ↔
        fetch.ticket.key ≠ slot.widget.key session.dashboard.snapshot) := by
    intro fetch issued own
    rw [ne_eq, consistent.request_eq_iff_current issued (own ▸ found), position,
      Option.some.injEq, eq_comm]
  rw [Tracker.needsFetch_iff position, Orderly.completed_eq orderly found,
    Orderly.keysOut_eq orderly found]
  refine and_congr ?_ ?_
  · cases last : session.lastAccepted id with
    | none => simp
    | some answer =>
      obtain ⟨fetch, result⟩ := answer
      obtain ⟨issued, own⟩ := consistent.of_lastAccepted last
      simp [compare fetch issued own]
  · simp only [List.mem_map, not_exists, not_and]
    refine forall₂_congr fun fetch out => ?_
    obtain ⟨issued, own⟩ := consistent.of_mem_outstandingOf out
    exact (compare fetch issued own).symm

/-- A fetch that is out never has the request of the last accepted answer of its widget. -/
theorem Orderly.request_ne_lastAccepted {result : Except FetchFailure Response}
    (orderly : Orderly config session) (found : session.slot? id = some slot)
    (last : session.lastAccepted id = some (fetch, result))
    (out : other ∈ session.outstandingOf id) : other.request ≠ fetch.request := by
  -- No ticket that is out has the key that was answered last, and keys decide requests.
  have consistent := Reachable.consistent (Orderly.reachable orderly)
  obtain ⟨issued, own⟩ := consistent.of_lastAccepted last
  obtain ⟨otherIssued, otherOwn⟩ := consistent.of_mem_outstandingOf out
  obtain ⟨history, run, _, outstanding, accepted⟩ := Orderly.tracked orderly found
  have faithful := Tracker.History.OrderlyRun.faithful run
  have outHere : other.ticket ∈ history.outstanding := by
    rw [outstanding]
    exact List.mem_map_of_mem out
  rw [ne_eq, consistent.request_eq_iff_key_eq otherIssued issued (otherOwn.trans own.symm)]
  simpa [faithful.completed, accepted, last, eq_comm] using faithful.unanswered _ outHere

/-- No two fetches of one widget that are out have the same request. -/
theorem Orderly.nodup_requests (orderly : Orderly config session) (id : String) :
    ((session.outstandingOf id).map (·.request)).Nodup := by
  -- The keys of the tickets that are out are distinct, and they are all of one widget.
  have consistent := Reachable.consistent (Orderly.reachable orderly)
  cases found : session.slot? id with
  | none => simp [consistent.outstandingOf_eq_nil found]
  | some slot =>
    obtain ⟨history, run, _, outstanding, _⟩ := Orderly.tracked orderly found
    have keys := (Tracker.History.OrderlyRun.faithful run).keys_nodup
    rw [outstanding, List.map_map] at keys
    rw [List.Nodup, List.pairwise_map] at keys ⊢
    refine keys.imp_of_mem fun {first second} firstOut secondOut apart same => apart ?_
    obtain ⟨firstIssued, firstOwn⟩ := consistent.of_mem_outstandingOf firstOut
    obtain ⟨secondIssued, secondOwn⟩ := consistent.of_mem_outstandingOf secondOut
    exact (consistent.request_eq_iff_key_eq firstIssued secondIssued
      (firstOwn.trans secondOwn.symm)).1 same

/--
Starting the fetches that are needed starts one for a widget exactly when the request that it needs
now is neither that of its last accepted answer nor that of a fetch that is out, and that is the
request of the new fetch. None is started twice: a widget starts at most one, those that are out
differ in their requests, and nothing is left to be started.
-/
theorem pendingFetches_exact (orderly : Orderly config session) :
    (∀ id slot, session.slot? id = some slot →
      ((∃ fetch ∈ session.dashboard.pendingFetches.1, fetch.ticket.widget = id) ↔
        (∀ fetch result, session.lastAccepted id = some (fetch, result) →
          fetch.request ≠ slot.widget.request session.snapshot) ∧
        ∀ fetch ∈ session.outstandingOf id,
          fetch.request ≠ slot.widget.request session.snapshot)) ∧
      (∀ fetch ∈ session.dashboard.pendingFetches.1,
        ∃ slot, session.slot? fetch.ticket.widget = some slot ∧
          fetch.request = slot.widget.request session.snapshot) ∧
      (∀ id, (session.dashboard.pendingFetches.1.filter (·.ticket.widget = id)).length ≤ 1) ∧
      (∀ id, ((session.outstandingOf id).map (·.request)).Nodup) ∧
      session.dashboard.pendingFetches.2.pendingFetches.1 = [] := by
  -- Each part is a fact about the slot of one widget, whose tracker needs a fetch or not.
  have coherent := (Reachable.consistent (Orderly.reachable orderly)).coherent
  refine ⟨?exact, ?request, ?once, Orderly.nodup_requests orderly,
    session.dashboard.pendingFetches_pendingFetches⟩
  case exact =>
    intro id slot found
    rw [coherent.exists_mem_pendingFetches found, Orderly.needsFetch_iff orderly found]
  case request =>
    intro fetch started
    obtain ⟨⟨id, slot⟩, member, begun⟩ := List.mem_filterMap.1 started
    have found := (Slots.mem_iff_get? coherent.distinct).1 member
    obtain ⟨_, owner, _, request⟩ := Dashboard.of_beginFetch_eq_some begun
    exact ⟨slot, by rw [slot?, owner, coherent.named found, found], request⟩
  case once =>
    intro id
    rw [coherent.filter_pendingFetches id]
    cases (session.dashboard.slots.get? id).bind fun slot =>
      (Dashboard.beginFetch session.dashboard.snapshot slot).1 <;> simp

/-- Once the filter is set, a second fetch of the chart is started beside the first one. -/
theorem pendingFetches_exact_filtered :
    filtered.outstandingOf "chart" = [chartFetch] ∧
      ∃ fetch ∈ filtered.dashboard.pendingFetches.1, fetch.ticket.widget = "chart" ∧
        fetch.request = chart.request filtered.snapshot := by
  -- The only fetch that is out was started without the filter, so another one is needed.
  have out : filtered.outstandingOf "chart" = [chartFetch] := by decide
  have unanswered : filtered.lastAccepted "chart" = none := by rfl
  obtain ⟨slot, found⟩ : ∃ slot, filtered.slot? "chart" = some slot :=
    Option.isSome_iff_exists.1 (by decide)
  obtain ⟨started, requested, _⟩ := pendingFetches_exact filtered_orderly
  have needed : ∀ fetch ∈ filtered.outstandingOf "chart",
      fetch.request ≠ slot.widget.request filtered.snapshot := by
    rw [out, filtered_widget found]
    decide
  obtain ⟨fetch, new, own⟩ := (started "chart" slot found).2 ⟨by simp [unanswered], needed⟩
  obtain ⟨present, foundPresent, request⟩ := requested fetch new
  rw [own] at foundPresent
  exact ⟨out, fetch, new, own, by rw [request, filtered_widget foundPresent]⟩

/-- The data of a successful last answer is the last data. -/
theorem lastData_of_lastAccepted {response : Response}
    (last : session.lastAccepted id = some (fetch, .ok response)) :
    session.lastData id = some response := by
  -- Both look for the same answer, the first one of the widget.
  rw [lastAccepted] at last
  rw [lastData]
  generalize session.accepted = answers at last ⊢
  induction answers with
  | nil => cases last
  | cons answer answers ih =>
    obtain ⟨asked, result⟩ := answer
    by_cases own : asked.ticket.widget = id
    · rw [List.find?_cons_of_pos (by simpa using own)] at last
      cases last
      simp [own, Except.toOption]
    · rw [List.find?_cons_of_neg (by simpa using own)] at last
      simp [own, ih last]

/-- A widget that is shown as ready has the data of its last accepted answer. -/
theorem Orderly.data_of_ready (orderly : Orderly config session)
    (found : session.slot? id = some slot) (ready : slot.tracker.status = .ready) :
    ∃ fetch response, session.lastAccepted id = some (fetch, .ok response) ∧
      slot.data = some response := by
  -- The status due says that the last answer was a success, so it brought the latest data.
  have consistent := Reachable.consistent (Orderly.reachable orderly)
  obtain ⟨history, run, same, _, accepted⟩ := Orderly.tracked orderly found
  have due := (Tracker.History.OrderlyRun.faithful run).status
  rw [same, ready] at due
  obtain ⟨ticket, response, success⟩ :=
    Tracker.History.accepted_of_statusDue_eq_ready due.symm
  rw [success] at accepted
  obtain ⟨⟨fetch, result⟩, last, answer⟩ := Option.map_eq_some_iff.1 accepted.symm
  cases answer
  exact ⟨fetch, response, last, (consistent.data found).trans (lastData_of_lastAccepted last)⟩

/--
Once the needed fetches were started, a widget that is shown as ready has the data of its last
accepted answer. That answer is to the request that the widget needs now exactly when no fetch with
that request is out.
-/
theorem ready_is_current_iff (orderly : Orderly config session)
    (found : (session.step .startPending).slot? id = some slot)
    (ready : slot.tracker.status = .ready) :
    ∃ fetch response,
      (session.step .startPending).lastAccepted id = some (fetch, .ok response) ∧
      slot.data = some response ∧
      (fetch.request = slot.widget.request (session.step .startPending).snapshot ↔
        ∀ other ∈ (session.step .startPending).outstandingOf id,
          other.request ≠ slot.widget.request (session.step .startPending).snapshot) := by
  -- The new session is orderly as well, so what is known of such sessions applies to it.
  have later : Orderly config (session.step .startPending) := orderly.step trivial
  obtain ⟨fetch, response, last, data⟩ := Orderly.data_of_ready later found ready
  refine ⟨fetch, response, last, data, ?_, ?_⟩
  · intro current other out
    rw [← current]
    exact Orderly.request_ne_lastAccepted later found last out
  · -- Nothing is needed any more, so the present request was answered or is out.
    intro unasked
    obtain ⟨before, _, rfl⟩ := Option.map_eq_some_iff.1
      ((session.dashboard.get?_pendingFetches id).symm.trans found)
    have idle := Dashboard.needsFetch_beginFetch before session.dashboard.snapshot
    by_contra outdated
    have needed := (Orderly.needsFetch_iff later found).2
      ⟨fun first result lastAgain => by cases last.symm.trans lastAgain; exact outdated, unasked⟩
    exact absurd needed (by simp [idle])

/-- While nothing else is out, an answered chart has the answer to the request that it needs. -/
theorem ready_is_current_iff_answered :
    ∃ slot fetch response, (answered.step .startPending).slot? "chart" = some slot ∧
      slot.tracker.status = .ready ∧ slot.data = some response ∧
      (fetch, .ok response) ∈ (answered.step .startPending).accepted ∧
      fetch.request = slot.widget.request (answered.step .startPending).snapshot := by
  -- No fetch is out any more, which is when the status tells that the data are current.
  have shown : ((answered.step .startPending).slot? "chart").map (·.tracker.status) =
      some .ready := by decide
  obtain ⟨slot, found, ready⟩ := Option.map_eq_some_iff.1 shown
  have quiet : (answered.step .startPending).outstandingOf "chart" = [] := by decide
  obtain ⟨fetch, response, last, data, current⟩ :=
    ready_is_current_iff answered_orderly found ready
  exact ⟨slot, fetch, response, found, ready, data, List.mem_of_find?_eq_some last,
    current.2 (by simp [quiet])⟩

/-- An overtaken chart is shown as ready with an answer to a request that it does not need. -/
theorem ready_is_current_iff_overtaken :
    ¬ ∀ config session, Orderly config session →
      ∀ id slot, (session.step .startPending).slot? id = some slot →
        slot.tracker.status = .ready →
        ∃ fetch response, (fetch, .ok response) ∈ (session.step .startPending).accepted ∧
          fetch.ticket.widget = id ∧ slot.data = some response ∧
          fetch.request = slot.widget.request (session.step .startPending).snapshot := by
  intro always
  have shown : ((overtaken.step .startPending).slot? "chart").map
      (fun slot => (slot.widget, slot.tracker.status)) = some (chart, .ready) := by decide
  obtain ⟨slot, found, same⟩ := Option.map_eq_some_iff.1 shown
  obtain ⟨owner, ready⟩ := Prod.mk.inj same
  obtain ⟨fetch, response, kept, _, _, current⟩ :=
    always .standard overtaken overtaken_orderly "chart" slot found ready
  -- Only the first fetch was answered, and it was started before the filter was set.
  have only : (overtaken.step .startPending).accepted = [(chartFetch, chartAnswer)] := by rfl
  rw [only, List.mem_singleton] at kept
  obtain ⟨rfl, _⟩ := Prod.mk.inj kept
  rw [owner] at current
  exact absurd current (by decide)

end Session

end Viewpoint
