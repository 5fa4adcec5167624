import Viewpoint.Proofs.Refresh

/-! A refresh accounts for each fetch that it starts, whatever the backend answers. -/

namespace Viewpoint

namespace RefreshSummary

variable {summary : RefreshSummary} {completion : Completion Reconciliation}

/-- The number of fetches that were completed, in whichever way. -/
def completed (summary : RefreshSummary) : Nat :=
  summary.ready + summary.failed + summary.discarded

/-- Each completion is counted once. -/
theorem completed_count : (summary.count completion).completed = summary.completed + 1 := by
  -- Each of the ways to be completed has a counter of its own.
  cases completion <;> simp only [count, completed] <;> omega

/-- A completion is no round. -/
theorem rounds_count : (summary.count completion).rounds = summary.rounds := by
  -- The counter of rounds is none of those for completions.
  cases completion <;> rfl

/-- A completion starts no fetch. -/
theorem issued_count : (summary.count completion).issued = summary.issued := by
  -- Nor is the counter of fetches that were started.
  cases completion <;> rfl

end RefreshSummary

namespace Dashboard

variable {dashboard after : Dashboard} {ticket : Ticket} {slot : Slot} {id : String}

/-- The fetches of a widget that are out, if there is such a widget. -/
def outOf (dashboard : Dashboard) (id : String) : Option (List (Nat × QueryKey)) :=
  (dashboard.slots.get? id).map (·.tracker.inFlight)

/-- The numbers of all fetches that are out were given out before. -/
def Numbered (dashboard : Dashboard) : Prop :=
  ∀ id slot, dashboard.slots.get? id = some slot → slot.tracker.Numbered

/-- A change of the slots in place keeps the numbers when it does so for each slot. -/
theorem Numbered.of_map {change : String → Slot → Slot} (numbered : dashboard.Numbered)
    (changed : ∀ id, after.slots.get? id = (dashboard.slots.get? id).map (change id))
    (kept : ∀ id slot, slot.tracker.Numbered → (change id slot).tracker.Numbered) :
    after.Numbered := by
  -- A slot that is found afterwards was found before, and has been changed since.
  intro id slot found
  rw [changed] at found
  obtain ⟨before, foundBefore, rfl⟩ := Option.map_eq_some_iff.1 found
  exact kept id before (numbered id before foundBefore)

/-- Starting the fetches that are needed gives each a number of its own. -/
theorem Numbered.pendingFetches (numbered : dashboard.Numbered) :
    dashboard.pendingFetches.2.Numbered := by
  -- A slot either starts no fetch, and is left as it is, or gives the next number out.
  refine numbered.of_map dashboard.get?_pendingFetches fun _ slot own => ?_
  cases needed : slot.tracker.needsFetch with
  | false => rwa [beginFetch_of_not_needsFetch needed]
  | true =>
    obtain ⟨key, position⟩ := Tracker.current_of_needsFetch needed
    rw [beginFetch_of_needsFetch position needed]
    exact own.start

/-- Taking an answer keeps the numbers, for any ticket at all. -/
theorem Numbered.completes {result : Except FetchFailure Response}
    {completion : Completion Reconciliation} (numbered : dashboard.Numbered)
    (coherent : dashboard.Coherent)
    (completes : Completes dashboard ticket slot result completion after) : after.Numbered := by
  refine numbered.of_map (completes.get? coherent) fun id slot own => ?_
  -- To notice a snapshot moves the key and nothing else.
  change (if id = ticket.widget then slot.settle ticket result else slot).tracker.Numbered
  split
  · exact own.settle result
  · exact own

/-- The entries that remain of the fetches of a widget once all the given tickets were settled. -/
def remaining (id : String) (tickets : List Ticket) (out : List (Nat × QueryKey)) :
    List (Nat × QueryKey) :=
  out.filter fun entry => ∀ ticket ∈ tickets, ticket.widget = id → entry.1 ≠ ticket.seq

/-- With no ticket to settle, all fetches remain. -/
theorem remaining_nil (id : String) (out : List (Nat × QueryKey)) : remaining id [] out = out := by
  -- No ticket is left to take anything away.
  simp [remaining]

/-- The tickets may be settled one after the other. -/
theorem remaining_cons (id : String) (tickets : List Ticket) (out : List (Nat × QueryKey)) :
    remaining id (ticket :: tickets) out =
      remaining id tickets
        (if id = ticket.widget then out.filter (·.1 != ticket.seq) else out) := by
  -- To keep what neither the first ticket nor a later one takes away is to filter twice.
  by_cases own : id = ticket.widget
  · subst own
    rw [if_pos rfl, remaining, remaining, List.filter_filter]
    refine List.filter_congr fun entry _ => Bool.eq_iff_iff.2 ?_
    simp [and_comm]
  · -- A ticket of another widget takes nothing away.
    simp [remaining, own, Ne.symm own]

/-- Of the fetches of its widget, a settled ticket takes its own away. -/
theorem Completes.outOf {result : Except FetchFailure Response}
    {completion : Completion Reconciliation} (coherent : dashboard.Coherent)
    (completes : Completes dashboard ticket slot result completion after) (id : String) :
    after.outOf id = (dashboard.outOf id).map fun out =>
      if id = ticket.widget then out.filter (·.1 != ticket.seq) else out := by
  -- Only the slot of the ticket settles it, and to observe the new snapshot leaves what is out.
  rw [Dashboard.outOf, Dashboard.outOf, completes.get? coherent, Option.map_map, Option.map_map]
  refine congrArg (Option.map · _) (funext fun slot => ?_)
  simp only [Function.comp_apply, Slot.observe, Tracker.observe]
  split
  · exact Tracker.settle_inFlight result
  · rfl

/-- Completing fetches of known widgets counts them all, and takes their tickets away. -/
theorem completeAll_accounts (coherent : dashboard.Coherent) (numbered : dashboard.Numbered)
    {answers : List (Ticket × Except FetchFailure Response)}
    (known : ∀ answer ∈ answers, dashboard.outOf answer.1.widget ≠ none)
    (summary : RefreshSummary) :
    ∃ done after, completeAll summary dashboard answers = (done, after) ∧
      after.Coherent ∧ after.Numbered ∧ done.rounds = summary.rounds ∧
      done.issued = summary.issued ∧ done.completed = summary.completed + answers.length ∧
      ∀ id, after.outOf id = (dashboard.outOf id).map (remaining id (answers.map (·.1))) := by
  -- The induction is on the answers, each of which is counted and takes away its own ticket.
  induction answers generalizing dashboard summary with
  | nil =>
    refine ⟨summary, dashboard, rfl, coherent, numbered, rfl, rfl, rfl, fun id => ?_⟩
    simp [funext (remaining_nil id)]
  | cons answer answers ih =>
    obtain ⟨ticket, result⟩ := answer
    obtain ⟨first, others⟩ := List.forall_mem_cons.1 known
    obtain ⟨slot, found⟩ : ∃ slot, dashboard.slots.get? ticket.widget = some slot := by
      simpa [outOf, Option.ne_none_iff_exists'] using first
    obtain ⟨completion, next, completed, completes⟩ :=
      complete_spec coherent.distinct found result
    have taken := completes.outOf coherent
    -- No widget is lost, so those that the later answers are for are there still.
    have still : ∀ answer ∈ answers, next.outOf answer.1.widget ≠ none := by
      intro answer later
      rw [taken, ne_eq, Option.map_eq_none_iff]
      exact others answer later
    obtain ⟨done, after, all, coherent, numbered, rounds, issued, counted, left⟩ :=
      ih (coherent.completes completes) (numbered.completes coherent completes) still
        (summary.count completion)
    refine ⟨done, after, ?_, coherent, numbered, rounds.trans RefreshSummary.rounds_count,
      issued.trans RefreshSummary.issued_count, ?_, fun id => ?_⟩
    · rw [completeAll, completed]
      exact all
    · rw [counted, RefreshSummary.completed_count, List.length_cons]
      omega
    · rw [left, taken, Option.map_map, List.map_cons]
      exact congrArg (Option.map · _) (funext fun out => (remaining_cons id _ out).symm)

/-- The fetches of a widget that were out before remain once the started one is settled. -/
theorem remaining_beginFetch {snapshot : Snapshot} (numbered : slot.tracker.Numbered)
    {tickets : List Ticket}
    (own : ∀ ticket, (ticket ∈ tickets ∧ ticket.widget = id) ↔
      ∃ fetch, (beginFetch snapshot slot).1 = some fetch ∧ fetch.ticket = ticket) :
    remaining id tickets (beginFetch snapshot slot).2.tracker.inFlight =
      slot.tracker.inFlight := by
  -- Among the tickets only the one just issued can take something away from this slot.
  have only : ∀ entry : Nat × QueryKey,
      (∀ ticket ∈ tickets, ticket.widget = id → entry.1 ≠ ticket.seq) ↔
        ∀ fetch, (beginFetch snapshot slot).1 = some fetch → entry.1 ≠ fetch.ticket.seq := by
    intro entry
    constructor
    · intro apart fetch begun
      obtain ⟨member, name⟩ := (own fetch.ticket).2 ⟨fetch, begun, rfl⟩
      exact apart fetch.ticket member name
    · intro apart ticket member name
      obtain ⟨fetch, begun, rfl⟩ := (own ticket).1 ⟨member, name⟩
      exact apart fetch begun
  simp only [remaining, only]
  cases needed : slot.tracker.needsFetch with
  | false => simp [beginFetch_of_not_needsFetch needed]
  | true =>
    -- The new entry comes last and has the next number, which no other one has.
    obtain ⟨key, position⟩ := Tracker.current_of_needsFetch needed
    simp only [beginFetch_of_needsFetch position needed, Option.some.injEq, forall_eq',
      Tracker.start, List.filter_append]
    have older : slot.tracker.inFlight.filter
        (fun entry => entry.1 ≠ slot.tracker.nextSeq) = slot.tracker.inFlight :=
      List.filter_eq_self.2 fun entry out => by
        have := numbered entry out
        simp only [decide_eq_true_eq]
        omega
    rw [older]
    simp

/-- A started fetch belongs to a widget, and is the one that the slot of the widget starts. -/
theorem Coherent.mem_tickets (coherent : dashboard.Coherent)
    (found : dashboard.slots.get? id = some slot) (ticket : Ticket) :
    (ticket ∈ dashboard.pendingFetches.1.map (·.ticket) ∧ ticket.widget = id) ↔
      ∃ fetch, (beginFetch dashboard.snapshot slot).1 = some fetch ∧ fetch.ticket = ticket := by
  -- The pending fetches of one widget are at most the one that its slot starts.
  have started := coherent.filter_pendingFetches id
  rw [found, Option.bind_some] at started
  constructor
  · rintro ⟨member, name⟩
    obtain ⟨fetch, pending, rfl⟩ := List.mem_map.1 member
    have listed : fetch ∈ dashboard.pendingFetches.1.filter (·.ticket.widget = id) :=
      List.mem_filter.2 ⟨pending, by simpa using name⟩
    rw [started] at listed
    exact ⟨fetch, by simpa using listed, rfl⟩
  · rintro ⟨fetch, begun, rfl⟩
    have listed : fetch ∈ dashboard.pendingFetches.1.filter (·.ticket.widget = id) := by
      rw [started, begun]
      exact List.mem_singleton_self fetch
    obtain ⟨pending, name⟩ := List.mem_filter.1 listed
    exact ⟨List.mem_map_of_mem pending, by simpa using name⟩

/-- Every fetch that is started belongs to a widget. -/
theorem Coherent.outOf_ne_none (coherent : dashboard.Coherent) {fetch : PendingFetch}
    (started : fetch ∈ dashboard.pendingFetches.1) :
    dashboard.pendingFetches.2.outOf fetch.ticket.widget ≠ none := by
  -- The fetch was started from a slot, whose widget therefore has fetches out.
  obtain ⟨⟨name, slot⟩, member, begun⟩ := List.mem_filterMap.1 started
  have found := (Slots.mem_iff_get? coherent.distinct).1 member
  obtain ⟨_, owner, _⟩ := of_beginFetch_eq_some begun
  rw [outOf, get?_pendingFetches, owner, coherent.named found, found]
  simp

section Rounds

variable {σ : Type} {progress : Progress σ}

/-- Each request of a round gets an answer. -/
theorem length_executeAll (backend : Backend σ) (state : σ) (requests : List Request) :
    (backend.executeAll state requests).1.length = requests.length := by
  -- The requests are answered one after the other, whatever the state of the service.
  induction requests generalizing state with
  | nil => rfl
  | cons request requests ih => simp only [Backend.executeAll, List.length_cons, ih]

/--
What a refresh did from one point to another, with at most so many rounds: the fetches it has
started are completed, and those that were out before are out again.
-/
structure Accounts (limit : Nat) (before after : Progress σ) : Prop where
  rounds : after.summary.rounds ≤ before.summary.rounds + limit
  exhausted : after.dashboard.needsFetch = true →
    after.summary.rounds = before.summary.rounds + limit
  balance : after.summary.issued + before.summary.completed =
    before.summary.issued + after.summary.completed
  out : ∀ id, after.dashboard.outOf id = before.dashboard.outOf id

/-- A round completes what it starts. -/
theorem runRound_accounts (backend : Backend σ) (coherent : progress.dashboard.Coherent)
    (numbered : progress.dashboard.Numbered) :
    ∃ after, runRound backend progress progress.dashboard.pendingFetches.1
        progress.dashboard.pendingFetches.2 = after ∧
      after.dashboard.Coherent ∧ after.dashboard.Numbered ∧
      after.summary.rounds = progress.summary.rounds + 1 ∧
      after.summary.issued + progress.summary.completed =
        progress.summary.issued + after.summary.completed ∧
      ∀ id, after.dashboard.outOf id = progress.dashboard.outOf id := by
  -- Each request is answered, and each answer is for a widget that is there, so a round is a series
  -- of completions none of which is refused.
  have lengths := length_executeAll backend progress.state
    (progress.dashboard.pendingFetches.1.map (·.request))
  have answered : (progress.dashboard.pendingFetches.1.map (·.ticket)).length =
      (backend.executeAll progress.state
        (progress.dashboard.pendingFetches.1.map (·.request))).1.length := by
    rw [lengths, List.length_map, List.length_map]
  have known : ∀ answer ∈ (progress.dashboard.pendingFetches.1.map (·.ticket)).zip
      (backend.executeAll progress.state
        (progress.dashboard.pendingFetches.1.map (·.request))).1,
      progress.dashboard.pendingFetches.2.outOf answer.1.widget ≠ none := by
    intro answer member
    obtain ⟨fetch, started, same⟩ := List.mem_map.1 (List.of_mem_zip member).1
    rw [← same]
    exact coherent.outOf_ne_none started
  obtain ⟨done, after, all, coherentAfter, numberedAfter, rounds, issued, completed, left⟩ :=
    completeAll_accounts coherent.pendingFetches numbered.pendingFetches known
      (progress.summary.countRound progress.dashboard.pendingFetches.1.length)
  refine ⟨_, rfl, ?_⟩
  rw [runRound_eq, all]
  refine ⟨coherentAfter, numberedAfter, rounds, ?_, fun id => ?_⟩
  · -- Every fetch that was issued has been completed in one of the ways.
    rw [List.length_zip, ← answered, Nat.min_self, List.length_map] at completed
    simp only [RefreshSummary.countRound, RefreshSummary.completed] at issued completed ⊢
    omega
  · -- The tickets of the round are just those that were added to what was out.
    rw [left, List.map_fst_zip (Nat.le_of_eq answered), outOf, get?_pendingFetches, outOf,
      Option.map_map, Option.map_map]
    cases found : progress.dashboard.slots.get? id with
    | none => rfl
    | some slot =>
      simp only [Option.map_some, Function.comp_apply, Option.some.injEq]
      exact remaining_beginFetch (numbered id slot found) (coherent.mem_tickets found)

/-- When no fetch is needed, none is added to those that are out. -/
theorem outOf_pendingFetches (coherent : dashboard.Coherent)
    (unneeded : dashboard.needsFetch = false) (id : String) :
    dashboard.pendingFetches.2.outOf id = dashboard.outOf id := by
  -- No slot needs a fetch, so all are left as they are.
  rw [outOf, get?_pendingFetches, outOf, Option.map_map]
  cases found : dashboard.slots.get? id with
  | none => rfl
  | some slot =>
    have quiet := (needsFetch_eq_false_iff coherent.distinct).1 unneeded found
    simp [beginFetch_of_not_needsFetch quiet]

/-- The rounds of a refresh account for what they do. -/
theorem runRounds_accounts (backend : Backend σ) (limit : Nat) (progress : Progress σ)
    (coherent : progress.dashboard.Coherent) (numbered : progress.dashboard.Numbered) :
    ∃ after, runRounds backend limit progress = after ∧ after.dashboard.Coherent ∧
      Accounts limit progress after := by
  -- The induction is on the limit; a round is run only while some widget needs a fetch.
  induction limit generalizing progress with
  | zero => exact ⟨progress, rfl, coherent, Nat.le_refl _, fun _ => rfl, rfl, fun _ => rfl⟩
  | succ limit ih =>
    rw [runRounds_succ]
    split
    · obtain ⟨next, run, coherent, numbered, counted, balance, out⟩ :=
        runRound_accounts backend coherent numbered
      rw [run]
      obtain ⟨after, rest, coherent, accounts⟩ := ih next coherent numbered
      refine ⟨after, rest, coherent, ?_, ?_, ?_, fun id => (accounts.out id).trans (out id)⟩
      · have := accounts.rounds
        omega
      · intro needed
        have := accounts.exhausted needed
        omega
      · have := accounts.balance
        omega
    · -- No widget needs a fetch, so all is as before and nothing is left to account for.
      rename_i unneeded
      refine ⟨_, rfl, coherent.pendingFetches, Nat.le_add_right _ _, fun needed => ?_, rfl,
        outOf_pendingFetches coherent (by simpa using unneeded)⟩
      rw [needsFetch_pendingFetches] at needed
      cases needed

end Rounds

/-- Some widget needs a fetch when its key has neither been answered last nor is asked for. -/
theorem Coherent.needsFetch_iff (coherent : dashboard.Coherent) :
    dashboard.needsFetch = true ↔ ∃ id slot, dashboard.slots.get? id = some slot ∧
      slot.tracker.completed ≠ some (slot.widget.key dashboard.snapshot) ∧
      slot.widget.key dashboard.snapshot ∉ slot.tracker.keysOut := by
  -- A dashboard needs a fetch when one of its slots does, and each slot is at the current key.
  rw [← Bool.not_eq_false, needsFetch_eq_false_iff coherent.distinct]
  push Not
  refine exists₂_congr fun id slot => and_congr_right fun found => ?_
  rw [ne_eq, Bool.not_eq_false, Tracker.needsFetch_iff (coherent.observed found)]

end Dashboard

namespace Session

variable {session : Session} {config : Config}

/-- Every operation keeps the numbers, also one that completes what was never started. -/
theorem numbered_step (coherent : session.dashboard.Coherent)
    (numbered : session.dashboard.Numbered) (operation : Operation) :
    (session.step operation).dashboard.Numbered := by
  -- Apart from fetches, slots are only made to notice what is shown, which starts nothing.
  have noticed : ∀ after : Dashboard,
      after.slots = session.dashboard.slots.mapSlots (·.observe after.snapshot) →
        after.Numbered := by
    intro after same
    have changed : ∀ id, after.slots.get? id =
        (session.dashboard.slots.get? id).map fun slot => slot.observe after.snapshot :=
      fun id => by rw [same, Slots.get?_mapSlots]
    exact numbered.of_map changed fun _ _ own => own
  cases operation with
  | setClock now => exact numbered
  | register id widget =>
    refine become_of (fun later => later.dashboard.Numbered) numbered fun after registered => ?_
    obtain ⟨fresh, rfl⟩ := Dashboard.register_eq_ok registered
    -- A new widget has no fetch out yet.
    intro name slot found
    rw [Slots.get?_insert fresh] at found
    split at found
    · cases found
      exact Tracker.numbered_new id
    · exact numbered name slot found
  | dispatch event =>
    exact become_of (fun later => later.dashboard.Numbered) numbered
      fun after dispatched => noticed after (Dashboard.dispatch_slots dispatched)
  | reconcile candidates => exact noticed _ (Dashboard.reconcile_slots candidates)
  | startPending => exact numbered.pendingFetches
  | complete fetch result =>
    cases found : session.dashboard.slots.get? fetch.ticket.widget with
    -- A ticket of no widget completes nothing.
    | none => simpa only [step, Dashboard.complete, found] using numbered
    | some slot =>
      obtain ⟨completion, after, completed, completes⟩ :=
        Dashboard.complete_spec coherent.distinct found result
      simp only [step, completed]
      exact numbered.completes coherent completes

/-- Whatever was done, the fetches that are out have numbers that were given out. -/
theorem Unrestricted.numbered (run : Unrestricted config session) :
    session.dashboard.Numbered := by
  -- The induction is on the run, which starts without any widget.
  induction run with
  | start started =>
    obtain ⟨now, dashboard, created, rfl⟩ := started
    intro id slot found
    simp [start, Dashboard.create_slots created, Slots.get?] at found
  | step before _ numbered => exact numbered_step (Unrestricted.coherent before) numbered _

/--
A refresh keeps to its limit and accounts for what it does, whatever the backend answers.

Each fetch that it starts is counted as ready, failed or discarded, and the fetches that were out
before are out after it. It is exhausted exactly when some widget still needs a fetch, and then it
has run all its rounds; otherwise, if nothing was out, each widget was answered last for the key
that it is at.
-/
theorem refresh_accounts {σ : Type} (run : Unrestricted config session) (backend : Backend σ)
    (state : σ) : ∃ summary later after,
      session.dashboard.refresh backend state = (summary, later, after) ∧
      summary.rounds ≤ session.dashboard.config.maxRefreshRounds ∧
      summary.issued = summary.ready + summary.failed + summary.discarded ∧
      (∀ id, after.outOf id = session.dashboard.outOf id) ∧
      (summary.exhausted = true ↔ ∃ id slot, after.slots.get? id = some slot ∧
        slot.tracker.completed ≠ some (slot.widget.key after.snapshot) ∧
        slot.widget.key after.snapshot ∉ slot.tracker.keysOut) ∧
      (summary.exhausted = true →
        summary.rounds = session.dashboard.config.maxRefreshRounds) ∧
      (session.dashboard.Rests → summary.exhausted = false →
        ∀ id slot, after.slots.get? id = some slot →
          slot.tracker.completed = some (slot.widget.key after.snapshot)) := by
  -- The rounds start from an empty summary, so their account is that of the refresh.
  obtain ⟨after, ran, coherent, accounts⟩ := Dashboard.runRounds_accounts backend
    session.dashboard.config.maxRefreshRounds ⟨.empty, state, session.dashboard⟩ run.coherent
    run.numbered
  refine ⟨_, _, _, rfl, ?_⟩
  rw [ran]
  have ⟨rounds, exhausted, balance, out⟩ := accounts
  simp only [RefreshSummary.empty, RefreshSummary.completed, Nat.zero_add, Nat.add_zero] at *
  refine ⟨rounds, balance, out, coherent.needsFetch_iff, exhausted, ?_⟩
  intro rests settled id slot found
  -- Nothing is out after the refresh either, so only the last answer can meet the need.
  have quiet : slot.tracker.inFlight = [] := by
    have same := out id
    rw [Dashboard.outOf, Dashboard.outOf, found] at same
    obtain ⟨before, foundBefore, still⟩ := Option.map_eq_some_iff.1 same.symm
    exact still.symm.trans (rests foundBefore)
  by_contra unanswered
  have needed : after.dashboard.needsFetch = true :=
    coherent.needsFetch_iff.2 ⟨id, slot, found, unanswered, by simp [Tracker.keysOut, quiet]⟩
  rw [settled] at needed
  cases needed

/-- The standard settings, but with a single round for each refresh. -/
def singleRound : Config :=
  { Config.standard with maxRefreshRounds := 1 }

/--
The first fetch of a chart is out when a filter is set, so that the chart needs another one beside
a selector that needs its first.
-/
def hurried : Session :=
  [.register "chart" chart, .startPending, .register "metric" (.options .metricName),
    .dispatch (.setFilter .service (some "a"))].foldl step
      (start { fresh.dashboard with config := singleRound })

/-- A backend that names another metric whenever it is asked, and is busy for all else. -/
def fickle : Backend Nat where
  options asked _ :=
    (.ok (Candidates.none.set .metricName [if asked % 2 = 0 then "cpu" else "latency"]), asked + 1)
  aggregated asked _ := (.error (.status 503 "busy"), asked + 1)
  timeseries asked _ := (.error (.status 503 "busy"), asked + 1)
  metrics asked _ := (.error (.status 503 "busy"), asked + 1)

/-- The only round ends with a new metric, for which the chart would have to fetch again. -/
theorem refresh_accounts_hurried : Unrestricted singleRound hurried ∧
    ∃ summary asked after, hurried.dashboard.refresh fickle 0 = (summary, asked, after) ∧
      summary.exhausted = true ∧ summary.rounds = 1 ∧
      summary.issued = summary.ready + summary.failed + summary.discarded ∧
      after.outOf "chart" = some [(0, chartFetch.ticket.key)] := by
  have started : IsStart singleRound (start { fresh.dashboard with config := singleRound }) :=
    ⟨noon, _, rfl, rfl⟩
  have run : Unrestricted singleRound hurried := (Run.start started).steps (by decide)
  -- The general result is applied to the run, and only the single facts about it are evaluated.
  obtain ⟨summary, asked, after, refreshed, _, balance, out, _, limit, _⟩ :=
    refresh_accounts run fickle 0
  have exhausted : summary.exhausted = true := by
    have shown : (hurried.dashboard.refresh fickle 0).1.exhausted = true := by decide
    rwa [refreshed] at shown
  have before : hurried.dashboard.outOf "chart" = some [(0, chartFetch.ticket.key)] := by decide
  exact ⟨run, summary, asked, after, refreshed, exhausted, limit exhausted, balance,
    (out "chart").trans before⟩

end Session

end Viewpoint
