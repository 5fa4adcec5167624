import Viewpoint.Query.Tracker

/-!
What the operations of a tracker do, one equation for each of their cases.

The numbers of the fetches that are out were given out before, whatever answers are taken.
-/

namespace Viewpoint.Tracker

variable {tracker : Tracker} {key : QueryKey}

/-- The keys of the fetches that are out. -/
def keysOut (tracker : Tracker) : List QueryKey :=
  tracker.inFlight.map Prod.snd

/-- The numbers of the fetches that are out. -/
def seqsOut (tracker : Tracker) : List Nat :=
  tracker.inFlight.map Prod.fst

/-- A fetch for a key is out when the key is among those of the fetches that are out. -/
theorem isOut_iff : tracker.isOut key = true ↔ key ∈ tracker.keysOut := by
  -- The search looks for a fetch with that key.
  simp [isOut, keysOut]

/-- At a key, a fetch is needed when the key has neither been answered nor asked for. -/
theorem needsFetch_iff (position : tracker.current = some key) :
    tracker.needsFetch = true ↔ tracker.completed ≠ some key ∧ key ∉ tracker.keysOut := by
  -- These are the two reasons for which a fetch is spared.
  rw [← isOut_iff]
  simp [needsFetch, position]

/-- A fetch is needed only at a key. -/
theorem current_of_needsFetch (needed : tracker.needsFetch = true) :
    ∃ key, tracker.current = some key := by
  -- Without a key there is nothing to ask for.
  cases position : tracker.current with
  | none => simp [needsFetch, position] at needed
  | some key => exact ⟨key, rfl⟩

/-- A fetch that is needed is started for the key that the widget is at. -/
theorem begin_of_needsFetch (position : tracker.current = some key)
    (needed : tracker.needsFetch = true) : tracker.begin = some (tracker.start key) := by
  -- Starting looks at the need for a fetch and at the key.
  simp [begin, needed, position]

/-- Nothing is started when no fetch is needed. -/
theorem begin_of_not_needsFetch (unneeded : tracker.needsFetch = false) :
    tracker.begin = none := by
  -- Starting looks at the need for a fetch first.
  simp [begin, unneeded]

/-- The key of a started fetch joins those that are out. -/
theorem keysOut_start : (tracker.start key).2.keysOut = tracker.keysOut ++ [key] := by
  -- The started fetch is listed last.
  simp [keysOut, start]

/-- The number of a started fetch joins those that are out. -/
theorem seqsOut_start :
    (tracker.start key).2.seqsOut = tracker.seqsOut ++ [tracker.nextSeq] := by
  -- The started fetch is listed last, under the number that was next.
  simp [seqsOut, start]

/-- A fetch that was just started is not needed again. -/
theorem needsFetch_start (position : tracker.current = some key) :
    (tracker.start key).2.needsFetch = false := by
  -- The key is among those that are out from now on.
  have out : key ∈ (tracker.start key).2.keysOut := by simp [keysOut_start]
  have same : (tracker.start key).2.current = some key := position
  rw [Bool.eq_false_iff, ne_eq, needsFetch_iff same]
  exact fun needed => needed.2 out

variable {α : Type} {ticket : Ticket} (result : Except FetchFailure α)

/-- An answer for the key that the widget is at is accepted. -/
theorem settle_of_current (position : tracker.current = some ticket.key) :
    tracker.settle ticket result = (completionOf result, { tracker.land ticket with
      completed := some ticket.key
      settled := statusOf result
      status := statusOf result }) := by
  -- The keys agree, so the outcome is shown.
  simp [settle, position]

/-- An answer for any other key is discarded. -/
theorem settle_of_superseded (elsewhere : tracker.current ≠ some ticket.key) :
    tracker.settle ticket result = (.discarded, { tracker.land ticket with
      status := (tracker.land ticket).statusAfterDiscard }) := by
  -- The keys differ, so only the fetch is taken off the list.
  simp [settle, elsewhere]

/-- The answer to a fetch is never discarded when it is accepted. -/
theorem completionOf_isAccepted : (completionOf result).isAccepted = true := by
  -- Data and a failure are both accepted.
  cases result <;> rfl

/-- An answer is accepted exactly when the widget is at the key of its ticket. -/
theorem settle_isAccepted_iff :
    (tracker.settle ticket result).1.isAccepted = true ↔ tracker.current = some ticket.key := by
  -- The key of the ticket is the only thing that is compared.
  by_cases position : tracker.current = some ticket.key
  · simp [settle_of_current result position, completionOf_isAccepted, position]
  · simp [settle_of_superseded result position, Completion.isAccepted, position]

/-- Taking an answer leaves the widget at its key. -/
theorem settle_current : (tracker.settle ticket result).2.current = tracker.current := by
  -- Neither branch moves the widget; they differ in what they remember and show.
  by_cases position : tracker.current = some ticket.key
  · rw [settle_of_current result position]
    rfl
  · rw [settle_of_superseded result position]
    rfl

/-- Taking an answer leaves the tracker with its widget. -/
theorem settle_widget : (tracker.settle ticket result).2.widget = tracker.widget := by
  -- The answer is accepted or not, and neither case touches the name.
  by_cases position : tracker.current = some ticket.key
  · rw [settle_of_current result position]
    rfl
  · rw [settle_of_superseded result position]
    rfl

/-- Taking an answer takes its fetch out of those that are out. -/
theorem settle_inFlight :
    (tracker.settle ticket result).2.inFlight = (tracker.land ticket).inFlight := by
  -- Accepted or not, the answer has come in.
  by_cases position : tracker.current = some ticket.key
  · rw [settle_of_current result position]
  · rw [settle_of_superseded result position]

/-- Taking an answer gives out no number. -/
theorem settle_nextSeq : (tracker.settle ticket result).2.nextSeq = tracker.nextSeq := by
  -- Only starting a fetch takes a number.
  by_cases position : tracker.current = some ticket.key
  · rw [settle_of_current result position]
    rfl
  · rw [settle_of_superseded result position]
    rfl

/-- The keys that are out once an answer came in were out before. -/
theorem keysOut_land : (tracker.land ticket).keysOut.Sublist tracker.keysOut :=
  -- The fetch is filtered out by its number.
  List.filter_sublist.map Prod.snd

/-- The numbers that are out once an answer came in were out before. -/
theorem seqsOut_land : (tracker.land ticket).seqsOut.Sublist tracker.seqsOut :=
  -- The fetch is filtered out, and the others stay in their order.
  List.filter_sublist.map Prod.fst

/-- A discarded answer changes nothing on a widget that is not loading. -/
theorem statusAfterDiscard_of_ne_loading (shown : tracker.status ≠ .loading) :
    tracker.statusAfterDiscard = tracker.status := by
  -- The status is only looked at again while it says that a fetch is out.
  simp [statusAfterDiscard, shown]

/-- A loading widget goes on loading until nothing is out, and then shows the answer to its key. -/
theorem statusAfterDiscard_of_loading (loading : tracker.status = .loading) :
    tracker.statusAfterDiscard =
      if tracker.inFlight = [] then
        if tracker.completed.isSome ∧ tracker.completed = tracker.current then tracker.settled
        else .idle
      else .loading := by
  -- The cases are those of the definition, with their tests as statements.
  simp [statusAfterDiscard, loading]

/-- The outcome of an answer is not that a fetch is out. -/
theorem statusOf_ne_loading : statusOf result ≠ .loading := by
  -- An answer leads to data or to a failure.
  cases result <;> simp [statusOf]

/-- The outcome of an answer is not that nothing was fetched. -/
theorem statusOf_ne_idle : statusOf result ≠ .idle := by
  -- An answer leads to data or to a failure.
  cases result <;> simp [statusOf]

/-- The numbers of the fetches that are out were given out before. -/
def Numbered (tracker : Tracker) : Prop :=
  ∀ entry ∈ tracker.inFlight, entry.1 < tracker.nextSeq

/-- A new tracker has given out no number. -/
theorem numbered_new (widget : String) : (new widget).Numbered := by
  -- Nothing is out.
  simp [Numbered, new]

/-- The next number is not out. -/
theorem Numbered.nextSeq_not_mem (numbered : tracker.Numbered) :
    tracker.nextSeq ∉ tracker.seqsOut := by
  -- All that is out has a smaller number.
  intro out
  obtain ⟨fetch, member, same⟩ := List.mem_map.1 out
  exact Nat.ne_of_lt (numbered fetch member) same

/-- A fetch that is started has a number that was not given out before. -/
theorem Numbered.start (numbered : tracker.Numbered) : (tracker.start key).2.Numbered := by
  -- The started fetch has the number that was next, and the next one is greater now.
  intro entry out
  rcases List.mem_append.1 out with before | new
  · exact Nat.lt_succ_of_lt (numbered entry before)
  · rw [List.mem_singleton.1 new]
    exact Nat.lt_succ_self _

/-- Taking an answer leaves only fetches that were out before. -/
theorem Numbered.settle (numbered : tracker.Numbered) :
    (tracker.settle ticket result).2.Numbered := by
  -- A fetch that is still out was so before, and numbers go on from where they were.
  intro entry out
  rw [settle_inFlight] at out
  rw [settle_nextSeq]
  exact numbered entry (List.mem_filter.1 out).1

end Viewpoint.Tracker
