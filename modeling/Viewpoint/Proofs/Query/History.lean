import Mathlib.Data.List.Nodup
import Viewpoint.Proofs.Query.Tracker
import Viewpoint.Proofs.Run

/-! Runs of one tracker: what it shows follows from the order in which its fetches were answered. -/

namespace Viewpoint.Tracker

/-- One use of a tracker. -/
inductive Action (α : Type) where
  | observe (key : QueryKey)
  | begin
  | settle (ticket : Ticket) (result : Except FetchFailure α)

/--
A tracker with what has happened to it.

It holds the fetches that are not answered yet and the last answer that was accepted. `restarted`
tells that a fetch was started after that answer, and `settledAt` is the key at which the widget was
when the latest answer of all came in.
-/
structure History (α : Type) where
  tracker : Tracker
  outstanding : List Ticket
  accepted : Option (Ticket × Except FetchFailure α)
  restarted : Bool
  settledAt : Option QueryKey

namespace History

variable {α : Type}

/-- The history of a new tracker. -/
def start (widget : String) : History α :=
  ⟨.new widget, [], none, false, none⟩

/-- Uses the tracker once. -/
def step (history : History α) : Action α → History α
  | .observe key => { history with tracker := history.tracker.observe key }
  | .begin =>
    match history.tracker.begin with
    | none => history
    | some (ticket, tracker) => { history with
        tracker
        outstanding := history.outstanding ++ [ticket]
        restarted := true }
  | .settle ticket result =>
    let (completion, tracker) := history.tracker.settle ticket result
    { history with
      tracker
      outstanding := history.outstanding.filter (· ≠ ticket)
      accepted := if completion.isAccepted then some (ticket, result) else history.accepted
      restarted := history.restarted && !completion.isAccepted
      settledAt := history.tracker.current }

/-- Nothing has been asked of the tracker yet. -/
def IsStart (history : History α) : Prop :=
  ∃ widget, history = start widget

/-- Only fetches that are out are answered, so each of them is answered at most once. -/
def Orderly (history : History α) : Action α → Prop
  | .settle ticket _ => ticket ∈ history.outstanding
  | _ => True

instance (history : History α) : ∀ action, Decidable (history.Orderly action)
  | .observe _ => isTrue trivial
  | .begin => isTrue trivial
  | .settle ticket _ => inferInstanceAs (Decidable (ticket ∈ history.outstanding))

/-- The histories in which each fetch is answered at most once. -/
abbrev OrderlyRun : History α → Prop :=
  Run IsStart step Orderly

/-- The outcome of the last answer that was accepted. -/
def outcome (history : History α) : WidgetStatus :=
  match history.accepted with
  | none => .idle
  | some (_, result) => statusOf result

/--
The status that a history calls for.

Until a fetch is started again it is the outcome of the last accepted answer. While fetches are out
the widget is loading. Once all are answered the outcome comes back, but only if the latest answer
came in while the widget was at the key of that outcome.
-/
def statusDue (history : History α) : WidgetStatus :=
  if history.restarted then
    if history.outstanding = [] then
      if history.settledAt = history.tracker.completed then history.outcome else .idle
    else .loading
  else history.outcome

/-- A tracker agrees with its history. -/
structure Faithful (history : History α) : Prop where
  inFlight : history.tracker.inFlight =
    history.outstanding.map fun ticket => (ticket.seq, ticket.key)
  seqs_below : ∀ ticket ∈ history.outstanding, ticket.seq < history.tracker.nextSeq
  seqs_nodup : (history.outstanding.map Ticket.seq).Nodup
  keys_nodup : (history.outstanding.map Ticket.key).Nodup
  completed : history.tracker.completed = history.accepted.map fun answer => answer.1.key
  settled : history.tracker.settled = history.outcome
  unanswered : ∀ ticket ∈ history.outstanding, history.tracker.completed ≠ some ticket.key
  status : history.tracker.status = history.statusDue

variable {history : History α}

/-- The outcome of an answer is never that a fetch is out. -/
theorem outcome_ne_loading : history.outcome ≠ .loading := by
  -- Without an answer the outcome is that nothing was fetched.
  unfold outcome
  cases history.accepted with
  | none => simp
  | some answer => exact statusOf_ne_loading answer.2

/-- A widget is to be shown as ready only while its last accepted answer was a success. -/
theorem accepted_of_statusDue_eq_ready (ready : history.statusDue = .ready) :
    ∃ ticket data, history.accepted = some (ticket, .ok data) := by
  -- Of all statuses that can be due, the outcome alone can be that data is shown.
  have succeeded : history.outcome = .ready := by
    unfold statusDue at ready
    split at ready
    · split at ready
      · split at ready
        · exact ready
        · cases ready
      · cases ready
    · exact ready
  unfold outcome at succeeded
  split at succeeded
  · cases succeeded
  · rename_i ticket result accepted
    cases result with
    | ok data => exact ⟨ticket, data, accepted⟩
    | error failure => cases succeeded

/-- A new tracker has nothing to disagree with. -/
theorem faithful_start (widget : String) : (start widget : History α).Faithful := by
  -- Nothing was issued, so nothing is out and nothing was answered.
  constructor <;> simp [start, new, outcome, statusDue]

/-- Moving to another key leaves all that was issued and answered. -/
theorem Faithful.observe (faithful : history.Faithful) (key : QueryKey) :
    (history.step (.observe key)).Faithful :=
  -- No clause speaks of the key that the widget is at.
  { faithful with }

/-- The keys of the outstanding fetches are those that the tracker holds as out. -/
theorem Faithful.keysOut (faithful : history.Faithful) :
    history.tracker.keysOut = history.outstanding.map Ticket.key := by
  -- The fetches that are held as out are the outstanding tickets with their numbers.
  simp [Tracker.keysOut, faithful.inFlight]

/-- A started fetch is for a key that was neither answered last nor asked for. -/
theorem Faithful.begin (faithful : history.Faithful) : (history.step .begin).Faithful := by
  -- If no fetch is needed nothing happens; otherwise the new ticket joins the old ones.
  cases needed : history.tracker.needsFetch with
  | false => simpa only [step, begin_of_not_needsFetch needed] using faithful
  | true =>
    obtain ⟨key, position⟩ := current_of_needsFetch needed
    obtain ⟨unanswered, unasked⟩ := (needsFetch_iff position).1 needed
    rw [faithful.keysOut] at unasked
    simp only [step, begin_of_needsFetch position needed, Tracker.start]
    constructor
    case inFlight => simp [faithful.inFlight]
    case seqs_below =>
      intro ticket out
      rcases List.mem_append.1 out with before | new
      · exact Nat.lt_succ_of_lt (faithful.seqs_below ticket before)
      · simp only [List.mem_singleton] at new
        simp [new]
    case seqs_nodup =>
      -- Every number given out so far is below the next one.
      have fresh : history.tracker.nextSeq ∉ history.outstanding.map Ticket.seq := by
        intro used
        obtain ⟨ticket, out, same⟩ := List.mem_map.1 used
        exact absurd (faithful.seqs_below ticket out) (by omega)
      simpa [List.nodup_append, faithful.seqs_nodup] using fresh
    case keys_nodup => simpa [List.nodup_append, faithful.keys_nodup] using unasked
    case completed => exact faithful.completed
    case settled => exact faithful.settled
    case unanswered =>
      intro ticket out
      rcases List.mem_append.1 out with before | new
      · exact faithful.unanswered ticket before
      · simp only [List.mem_singleton] at new
        simpa [new] using unanswered
    case status => simp [statusDue]

/-- An answered fetch is no longer out, and all others still are. -/
theorem Faithful.land (faithful : history.Faithful) {ticket : Ticket}
    (out : ticket ∈ history.outstanding) :
    (history.tracker.land ticket).inFlight =
      (history.outstanding.filter (· ≠ ticket)).map fun ticket => (ticket.seq, ticket.key) := by
  -- The tracker forgets the number, the history the ticket.
  simp only [Tracker.land, faithful.inFlight, List.filter_map]
  congr 1
  refine List.filter_congr fun other otherOut => ?_
  -- Fetches that are out go by their numbers.
  have same : other.seq = ticket.seq ↔ other = ticket :=
    ⟨List.inj_on_of_nodup_map faithful.seqs_nodup otherOut out, fun same => by rw [same]⟩
  simp only [Function.comp_apply, bne, decide_not, ← same]
  rfl

/-- After a discarded answer the status is the one that the longer history calls for. -/
theorem Faithful.statusAfterDiscard (faithful : history.Faithful) {ticket : Ticket}
    (out : ticket ∈ history.outstanding) :
    (history.tracker.land ticket).statusAfterDiscard =
      statusDue { history with
        outstanding := history.outstanding.filter (· ≠ ticket)
        settledAt := history.tracker.current } := by
  -- The status was due before, so only what is restored at the end has to be compared.
  have landed := faithful.land out
  have before : (history.tracker.land ticket).status = history.statusDue := faithful.status
  cases restarted : history.restarted with
  | false =>
    -- The outcome is shown already, and an outcome is never that the widget is loading.
    have shown : (history.tracker.land ticket).status = history.outcome := by
      simpa [statusDue, restarted] using before
    rw [statusAfterDiscard_of_ne_loading (shown ▸ outcome_ne_loading), shown]
    simp [statusDue, outcome]
  | true =>
    have busy : history.outstanding ≠ [] := List.ne_nil_of_mem out
    have loading : (history.tracker.land ticket).status = .loading := by
      simpa [statusDue, restarted, busy] using before
    rw [statusAfterDiscard_of_loading loading, landed]
    simp only [statusDue, if_true, List.map_eq_nil_iff]
    -- Without an accepted answer there is no outcome to return to, so the keys need no guard.
    have shown : (if history.tracker.completed.isSome ∧
        history.tracker.completed = history.tracker.current then history.tracker.settled
        else .idle) =
        if history.tracker.current = history.tracker.completed then history.outcome else .idle := by
      rw [faithful.settled]
      cases accepted : history.accepted with
      | none => simp [outcome, accepted]
      | some answer => simp [faithful.completed, accepted, eq_comm]
    exact if_congr Iff.rfl shown rfl

/-- The answer to an outstanding fetch leaves a tracker that agrees with its history. -/
theorem Faithful.settle (faithful : history.Faithful) {ticket : Ticket}
    (out : ticket ∈ history.outstanding) (result : Except FetchFailure α) :
    (history.step (.settle ticket result)).Faithful := by
  -- The answered ticket leaves both lists; what else changes depends on where the widget is.
  have landed := faithful.land out
  have remains : ∀ other ∈ history.outstanding.filter (· ≠ ticket), other ∈ history.outstanding :=
    fun other remaining => (List.mem_filter.1 remaining).1
  have sublist : (history.outstanding.filter (· ≠ ticket)).Sublist history.outstanding :=
    List.filter_sublist
  by_cases position : history.tracker.current = some ticket.key
  · simp only [step, settle_of_current result position, completionOf_isAccepted, if_true]
    exact {
      inFlight := landed
      seqs_below := fun other remaining => faithful.seqs_below other (remains other remaining)
      seqs_nodup := faithful.seqs_nodup.sublist (sublist.map _)
      keys_nodup := faithful.keys_nodup.sublist (sublist.map _)
      completed := rfl
      settled := rfl
      unanswered := by
        -- The keys of outstanding fetches differ, so no other one asks for the answered key.
        intro other remaining same
        obtain ⟨otherOut, apart⟩ : other ∈ history.outstanding ∧ other ≠ ticket := by
          simpa using remaining
        have sameKey : other.key = ticket.key := (Option.some.inj same).symm
        exact apart (List.inj_on_of_nodup_map faithful.keys_nodup otherOut out sameKey)
      status := by simp [statusDue, outcome] }
  · simp only [step, settle_of_superseded result position, Completion.isAccepted,
      Bool.false_eq_true, if_false, Bool.not_false, Bool.and_true]
    exact {
      inFlight := landed
      seqs_below := fun other remaining => faithful.seqs_below other (remains other remaining)
      seqs_nodup := faithful.seqs_nodup.sublist (sublist.map _)
      keys_nodup := faithful.keys_nodup.sublist (sublist.map _)
      completed := faithful.completed
      settled := faithful.settled
      unanswered := fun other remaining => faithful.unanswered other (remains other remaining)
      status := faithful.statusAfterDiscard out }

/-- Every orderly use of a tracker leaves it in agreement with its history. -/
theorem Faithful.step (faithful : history.Faithful) {action : Action α}
    (orderly : history.Orderly action) : (history.step action).Faithful := by
  -- Each of the three actions keeps the agreement.
  cases action with
  | observe key => exact faithful.observe key
  | begin => exact faithful.begin
  | settle ticket result => exact faithful.settle orderly result

/-- A tracker agrees with every orderly run that it went through. -/
theorem OrderlyRun.faithful (run : OrderlyRun history) : history.Faithful := by
  -- The induction is on the run, one action after the other.
  induction run with
  | start started =>
    obtain ⟨widget, rfl⟩ := started
    exact faithful_start widget
  | step _ orderly faithful => exact faithful.step orderly

/--
Back at the key of the last accepted answer with nothing out, a widget shows the outcome of that
answer unless it was lost: a fetch was started since, and the latest answer found the widget at
another key. Then the widget shows that nothing was fetched.
-/
theorem status_at_rest (run : OrderlyRun history) (rest : history.outstanding = [])
    {ticket : Ticket} {result : Except FetchFailure α}
    (accepted : history.accepted = some (ticket, result))
    (back : history.tracker.current = some ticket.key) :
    (history.tracker.status = statusOf result ↔
        (history.restarted = true → history.settledAt = history.tracker.current)) ∧
      (history.tracker.status ≠ statusOf result → history.tracker.status = .idle) := by
  -- With nothing out, the status due depends on two flags of the history only.
  have faithful := OrderlyRun.faithful run
  have outcome : history.outcome = statusOf result := by simp [History.outcome, accepted]
  have completed : history.tracker.completed = history.tracker.current := by
    simp [faithful.completed, accepted, back]
  have shown := faithful.status
  rw [statusDue, rest, completed, outcome] at shown
  cases restarted : history.restarted with
  | false => simp [shown, restarted]
  | true =>
    by_cases kept : history.settledAt = history.tracker.current
    · simp [shown, restarted, kept]
    · have lost := statusOf_ne_idle result
      simp [shown, restarted, kept, lost.symm]

/-- The key of a widget that depends on one service alone. -/
def serviceKey (service : String) : QueryKey :=
  ⟨none, [(.service, service)], none, none⟩

/-- A widget was answered for service `a`, and a fetch for service `b` is out. -/
def detour : History Unit :=
  [.observe (serviceKey "a"), .begin, .settle ⟨"w", 0, serviceKey "a"⟩ (.ok ()),
    .observe (serviceKey "b"), .begin].foldl step (start "w")

/-- The answer for service `b` finds the widget at service `a` again. -/
def shortDetour : History Unit :=
  [.observe (serviceKey "a"), .settle ⟨"w", 1, serviceKey "b"⟩ (.ok ())].foldl step detour

/-- The answer for service `b` finds the widget at service `c`, on its way to service `a`. -/
def longDetour : History Unit :=
  [.observe (serviceKey "c"), .settle ⟨"w", 1, serviceKey "b"⟩ (.ok ()),
    .observe (serviceKey "a")].foldl step detour

/-- The fetches of a detour are answered at most once. -/
theorem detour_run : OrderlyRun detour :=
  -- The tickets were issued by then, each for one answer.
  (Run.start ⟨"w", rfl⟩).steps (by decide)

/-- A short detour is one as well. -/
theorem shortDetour_run : OrderlyRun shortDetour :=
  -- The detour goes on with actions that are orderly.
  detour_run.steps (by decide)

/-- A long detour is one as well. -/
theorem longDetour_run : OrderlyRun longDetour :=
  -- The detour goes on with actions that are orderly, one of which is the last answer.
  detour_run.steps (by decide)

/-- A short detour ends at rest, and the widget shows its answer as before. -/
theorem status_at_rest_shortDetour :
    shortDetour.outstanding = [] ∧
      shortDetour.accepted = some (⟨"w", 0, serviceKey "a"⟩, .ok ()) ∧
      shortDetour.tracker.current = some (serviceKey "a") ∧ shortDetour.restarted = true ∧
      shortDetour.tracker.status = .ready := by
  -- No third key came in between, so the outcome is not lost.
  have accepted : shortDetour.accepted = some (⟨"w", 0, serviceKey "a"⟩, .ok ()) := by rfl
  have rest := status_at_rest shortDetour_run (by decide) accepted (by decide)
  exact ⟨by decide, accepted, by decide, by decide, rest.1.2 (by decide)⟩

/-- A long detour ends at rest at the key of an answer whose outcome is no longer shown. -/
theorem status_at_rest_lost :
    ¬ ∀ history : History Unit, OrderlyRun history → history.outstanding = [] →
      ∀ ticket result, history.accepted = some (ticket, result) →
        history.tracker.current = some ticket.key → history.tracker.status = statusOf result := by
  -- The long detour meets every condition, yet its widget is idle.
  intro always
  have shown := always longDetour longDetour_run (by decide) ⟨"w", 0, serviceKey "a"⟩ (.ok ())
    (by rfl) (by decide)
  exact absurd shown (by decide)

end History

/-- A tracker went through an orderly run that left the given fetches out and the given answer. -/
def HasHistory {α : Type} (tracker : Tracker) (outstanding : List Ticket)
    (accepted : Option (Ticket × Except FetchFailure α)) : Prop :=
  ∃ history : History α, History.OrderlyRun history ∧ history.tracker = tracker ∧
    history.outstanding = outstanding ∧ history.accepted = accepted

namespace HasHistory

variable {α : Type} {tracker : Tracker} {outstanding : List Ticket}
  {accepted : Option (Ticket × Except FetchFailure α)}

/-- A new tracker went through nothing. -/
theorem new (widget : String) :
    HasHistory (.new widget) [] (none : Option (Ticket × Except FetchFailure α)) :=
  -- The history of a new tracker is its start.
  ⟨.start widget, .start ⟨widget, rfl⟩, rfl, rfl, rfl⟩

/-- Moving to a key adds nothing to be answered. -/
theorem observe (before : HasHistory tracker outstanding accepted) (key : QueryKey) :
    HasHistory (tracker.observe key) outstanding accepted := by
  -- The history goes on with the move, which issues and answers nothing.
  obtain ⟨history, run, rfl, rfl, rfl⟩ := before
  exact ⟨history.step (.observe key), run.step trivial, rfl, rfl, rfl⟩

/-- A started fetch is out. -/
theorem start (before : HasHistory tracker outstanding accepted) {key : QueryKey}
    (position : tracker.current = some key) (needed : tracker.needsFetch = true) :
    HasHistory (tracker.start key).2 (outstanding ++ [(tracker.start key).1]) accepted := by
  -- The history goes on with the fetch that is started, since it is needed.
  obtain ⟨history, run, rfl, rfl, rfl⟩ := before
  refine ⟨history.step .begin, run.step trivial, ?_, ?_, ?_⟩ <;>
    simp only [History.step, begin_of_needsFetch position needed]

/-- An answered fetch is no longer out, and its answer is the last one if it is accepted. -/
theorem settle (before : HasHistory tracker outstanding accepted) {ticket : Ticket}
    (out : ticket ∈ outstanding) (result : Except FetchFailure α) :
    HasHistory (tracker.settle ticket result).2 (outstanding.filter (· ≠ ticket))
      (if tracker.current = some ticket.key then some (ticket, result) else accepted) := by
  -- The history goes on with the answer, which is orderly since its ticket is out.
  obtain ⟨history, run, rfl, rfl, rfl⟩ := before
  refine ⟨history.step (.settle ticket result), run.step out, rfl, rfl, ?_⟩
  simp only [History.step, settle_isAccepted_iff]

end HasHistory

end Viewpoint.Tracker
