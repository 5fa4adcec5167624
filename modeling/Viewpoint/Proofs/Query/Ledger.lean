import Mathlib.Data.List.Nodup
import Viewpoint.Proofs.Query.History

/-!
A tracker keeps its fetches apart whatever tickets it is given answers to.

An answer takes out the fetch with the number of its ticket, but it is judged by the key. A ticket
that was never issued can therefore end one fetch and answer the key of another one.
-/

namespace Viewpoint.Tracker

/--
What holds of a tracker whatever the tickets of the answers that it took.

That the key of the last answer is not out any more is not part of it: the answer may have come
with the number of another fetch.
-/
structure Sound (tracker : Tracker) : Prop where
  keys_nodup : tracker.keysOut.Nodup
  seqs_nodup : tracker.seqsOut.Nodup
  numbered : tracker.Numbered
  busy : tracker.status = .loading → tracker.inFlight ≠ []
  settled_ne_loading : tracker.settled ≠ .loading
  settled_eq_idle_iff : tracker.settled = .idle ↔ tracker.completed = none

variable {α : Type} {tracker : Tracker} {key : QueryKey}

/-- A new tracker has nothing out and nothing answered. -/
theorem sound_new (widget : String) : (new widget).Sound := by
  -- Nothing is out, nothing was completed and no number was given out.
  constructor <;> simp [new, keysOut, seqsOut, Numbered]

/-- Moving to another key leaves what is out and what was answered. -/
theorem Sound.observe (sound : tracker.Sound) (key : QueryKey) : (tracker.observe key).Sound :=
  -- Only the current key changes, of which soundness says nothing.
  { sound with }

/-- A fetch that is needed is for a key that is not out yet, and it gets a number of its own. -/
theorem Sound.start (sound : tracker.Sound) (position : tracker.current = some key)
    (needed : tracker.needsFetch = true) : (tracker.start key).2.Sound := by
  -- The key and the number that join those that are out are both new among them.
  have unasked : key ∉ tracker.keysOut := ((needsFetch_iff position).1 needed).2
  have unused : tracker.nextSeq ∉ tracker.seqsOut := sound.numbered.nextSeq_not_mem
  exact {
    keys_nodup := by
      rw [keysOut_start]
      exact sound.keys_nodup.append (List.nodup_singleton key) (List.disjoint_singleton.2 unasked)
    seqs_nodup := by
      rw [seqsOut_start]
      exact sound.seqs_nodup.append (List.nodup_singleton _) (List.disjoint_singleton.2 unused)
    numbered := sound.numbered.start
    busy := fun _ => by simp [Tracker.start]
    settled_ne_loading := sound.settled_ne_loading
    settled_eq_idle_iff := sound.settled_eq_idle_iff }

/-- A discarded answer leaves a widget loading only if something is still out. -/
theorem inFlight_ne_nil_of_statusAfterDiscard (remembered : tracker.settled ≠ .loading)
    (loading : tracker.statusAfterDiscard = .loading) : tracker.inFlight ≠ [] := by
  intro rest
  by_cases before : tracker.status = .loading
  · -- With nothing out the status is the remembered one or that nothing was fetched.
    rw [statusAfterDiscard_of_loading before, if_pos rest] at loading
    split at loading
    · exact remembered loading
    · cases loading
  · rw [statusAfterDiscard_of_ne_loading before] at loading
    exact before loading

/-- An answer leaves a sound tracker, whatever its ticket. -/
theorem Sound.settle (sound : tracker.Sound) (ticket : Ticket) (result : Except FetchFailure α) :
    (tracker.settle ticket result).2.Sound := by
  -- Nothing new is out, so the keys and the numbers of what remains are still apart.
  have keys : (tracker.land ticket).keysOut.Nodup := sound.keys_nodup.sublist keysOut_land
  have seqs : (tracker.land ticket).seqsOut.Nodup := sound.seqs_nodup.sublist seqsOut_land
  have numbered : (tracker.settle ticket result).2.Numbered := sound.numbered.settle result
  by_cases position : tracker.current = some ticket.key
  · -- An accepted answer leaves an outcome behind, which is neither loading nor idle.
    rw [settle_of_current result position] at numbered ⊢
    exact {
      keys_nodup := keys
      seqs_nodup := seqs
      numbered
      busy := fun loading => absurd loading (statusOf_ne_loading result)
      settled_ne_loading := statusOf_ne_loading result
      settled_eq_idle_iff := by simp [statusOf_ne_idle] }
  · -- A discarded one changes nothing that is remembered, so only the status can be in doubt.
    rw [settle_of_superseded result position] at numbered ⊢
    exact {
      keys_nodup := keys
      seqs_nodup := seqs
      numbered
      busy := inFlight_ne_nil_of_statusAfterDiscard sound.settled_ne_loading
      settled_ne_loading := sound.settled_ne_loading
      settled_eq_idle_iff := sound.settled_eq_idle_iff }

/-- A tracker with all tickets that it has issued, the first one first. -/
structure Ledger where
  tracker : Tracker
  issued : List Ticket

namespace Ledger

open History (serviceKey)

/-- The ledger of a new tracker. -/
def start (widget : String) : Ledger :=
  ⟨.new widget, []⟩

/-- Uses the tracker once, and enters the ticket if one is issued. -/
def step (ledger : Ledger) : Action α → Ledger
  | .observe key => { ledger with tracker := ledger.tracker.observe key }
  | .begin =>
    match ledger.tracker.begin with
    | none => ledger
    | some (ticket, tracker) => ⟨tracker, ledger.issued ++ [ticket]⟩
  | .settle ticket result => { ledger with tracker := (ledger.tracker.settle ticket result).2 }

/-- The ledger of a widget after uses of its tracker, whose answers may be to any tickets. -/
def afterUses (widget : String) (actions : List (Action α)) : Ledger :=
  actions.foldl step (start widget)

/-- The answers to tickets, taken one after the other. -/
def answering (answers : List (Ticket × Except FetchFailure α)) : List (Action α) :=
  answers.map fun (ticket, result) => .settle ticket result

/-- A ledger is in order when its tickets are numbered from zero on and its tracker is sound. -/
structure InOrder (ledger : Ledger) : Prop where
  sound : ledger.tracker.Sound
  seqs : ledger.issued.map Ticket.seq = List.range ledger.tracker.nextSeq

variable {ledger : Ledger}

/-- The ledger of a new tracker is empty. -/
theorem inOrder_start (widget : String) : (start widget).InOrder where
  sound := sound_new widget
  seqs := rfl

/-- A ticket that is issued has the next number. -/
theorem InOrder.begin (order : ledger.InOrder) : (ledger.step (.begin : Action α)).InOrder := by
  -- If no fetch is needed nothing happens; otherwise one more number is given out.
  cases needed : ledger.tracker.needsFetch with
  | false => simpa only [step, begin_of_not_needsFetch needed] using order
  | true =>
    obtain ⟨key, position⟩ := current_of_needsFetch needed
    simp only [step, begin_of_needsFetch position needed]
    exact {
      sound := order.sound.start position needed
      seqs := by simp [Tracker.start, order.seqs, List.range_succ] }

/-- An answer issues no ticket. -/
theorem InOrder.settle (order : ledger.InOrder) (ticket : Ticket)
    (result : Except FetchFailure α) : (ledger.step (.settle ticket result)).InOrder where
  -- Neither the issued tickets nor the next number change.
  sound := order.sound.settle ticket result
  seqs := by
    rw [step, settle_nextSeq]
    exact order.seqs

/-- Every use of the tracker leaves its ledger in order. -/
theorem InOrder.step (order : ledger.InOrder) (action : Action α) :
    (ledger.step action).InOrder := by
  -- Each of the three actions keeps the order.
  cases action with
  | observe key => exact { order with sound := order.sound.observe key }
  | begin => exact order.begin
  | settle ticket result => exact order.settle ticket result

/-- A ledger stays in order through any uses. -/
theorem InOrder.steps (order : ledger.InOrder) (actions : List (Action α)) :
    (actions.foldl Ledger.step ledger).InOrder := by
  -- The induction is on the uses, each of them the first of those that are left.
  induction actions generalizing ledger with
  | nil => exact order
  | cons action actions ih => exact ih (order.step action)

/-- No two tickets have one number. -/
theorem InOrder.seqs_nodup (order : ledger.InOrder) : (ledger.issued.map Ticket.seq).Nodup := by
  -- The numbers are those from zero on, each given out once.
  rw [order.seqs]
  exact List.nodup_range

/-- Behind answers, the fetches are out that were out before and were not answered. -/
theorem mem_inFlight_answering (answers : List (Ticket × Except FetchFailure α))
    (fetch : Nat × QueryKey) :
    fetch ∈ ((answering answers).foldl step ledger).tracker.inFlight ↔
      fetch ∈ ledger.tracker.inFlight ∧ ∀ answer ∈ answers, fetch.1 ≠ answer.1.seq := by
  -- The induction is on the answers; each one takes its number out.
  induction answers generalizing ledger with
  | nil => simp [answering]
  | cons answer answers ih =>
    have first : fetch ∈ (ledger.step (.settle answer.1 answer.2)).tracker.inFlight ↔
        fetch ∈ ledger.tracker.inFlight ∧ fetch.1 ≠ answer.1.seq := by
      simp [step, settle_inFlight, land]
    refine ih.trans ?_
    rw [first, List.forall_mem_cons, and_assoc]

/--
A tracker stays sound whatever tickets it takes answers to, forged, foreign or repeated ones also.

The keys of the fetches that are out differ, their numbers differ too and are below the next one,
and no two issued tickets share a number. A widget is loading only while something is out, so it is
not loading any more once everything that is out has been answered. The status that is remembered
is never that it is loading, and it is that nothing was fetched just as long as no key was answered.
-/
theorem stays_sound (widget : String) (actions : List (Action α)) :
    let ledger :=
  -- Every part but one is kept by each action and so holds after all of them.
  afterUses widget actions
    ledger.tracker.keysOut.Nodup ∧
      ledger.tracker.seqsOut.Nodup ∧
      (∀ fetch ∈ ledger.tracker.inFlight, fetch.1 < ledger.tracker.nextSeq) ∧
      (ledger.issued.map Ticket.seq).Nodup ∧
      (ledger.tracker.status = .loading → ledger.tracker.inFlight ≠ []) ∧
      (∀ answers : List (Ticket × Except FetchFailure α),
        (∀ fetch ∈ ledger.tracker.inFlight, ∃ answer ∈ answers, fetch.1 = answer.1.seq) →
          (afterUses widget (actions ++ answering answers)).tracker.status ≠ .loading) ∧
      ledger.tracker.settled ≠ .loading ∧
      (ledger.tracker.settled = .idle ↔ ledger.tracker.completed = none) := by
  intro ledger
  have always (uses : List (Action α)) : (afterUses widget uses).InOrder :=
    (inOrder_start widget).steps uses
  have order : ledger.InOrder := always actions
  refine ⟨order.sound.keys_nodup, order.sound.seqs_nodup, order.sound.numbered, order.seqs_nodup,
    order.sound.busy, fun answers answered loading => ?_, order.sound.settled_ne_loading,
    order.sound.settled_eq_idle_iff⟩
  -- A fetch that is still out then was not answered, yet all of them were.
  obtain ⟨fetch, out⟩ := List.exists_mem_of_ne_nil _ ((always _).sound.busy loading)
  rw [afterUses, List.foldl_append, mem_inFlight_answering] at out
  obtain ⟨answer, given, same⟩ := answered fetch out.1
  exact out.2 answer given same

/--
Fetches for services `a` and `b` are out when an answer comes in with the number of the first and
the key of the second, under the name of another widget. Then a fetch for `c` is started.
-/
def crossed : List (Action Unit) :=
  [.observe (serviceKey "a"), .begin, .observe (serviceKey "b"), .begin,
    .settle ⟨"v", 0, serviceKey "b"⟩ (.ok ()), .observe (serviceKey "c"), .begin]

/-- Answers for keys that nobody asked for under these numbers, one of them given twice. -/
def strayAnswers : List (Ticket × Except FetchFailure Unit) :=
  [(⟨"v", 2, serviceKey "a"⟩, .ok ()), (⟨"w", 1, serviceKey "d"⟩, .ok ()),
    (⟨"v", 2, serviceKey "a"⟩, .ok ())]

/-- The key of the crossed answer is still out, and even stray answers end the loading. -/
theorem stays_sound_crossed :
    (afterUses "w" crossed).tracker.completed = some (serviceKey "b") ∧
      (1, serviceKey "b") ∈ (afterUses "w" crossed).tracker.inFlight ∧
      1 < (afterUses "w" crossed).tracker.nextSeq ∧
      (afterUses "w" crossed).tracker.status = .loading ∧
      (afterUses "w" crossed).tracker.inFlight ≠ [] ∧
      (afterUses "w" (crossed ++ answering strayAnswers)).tracker.status ≠ .loading := by
  -- The run is evaluated for what it shows, and the bounds on it follow.
  obtain ⟨-, -, below, -, busy, ending, -⟩ := stays_sound "w" crossed
  have out : (1, serviceKey "b") ∈ (afterUses "w" crossed).tracker.inFlight := by decide
  have loading : (afterUses "w" crossed).tracker.status = .loading := by decide
  exact ⟨by decide, out, below _ out, loading, busy loading, ending strayAnswers (by decide)⟩

end Ledger

end Viewpoint.Tracker
