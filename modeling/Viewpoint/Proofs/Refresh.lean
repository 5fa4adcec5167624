import Viewpoint.Proofs.Reconcile
import Viewpoint.Proofs.Session
import Viewpoint.Refresh

/-! A round of a refresh: the fetches that it starts are completed one after the other. -/

namespace Viewpoint

namespace Dashboard

variable {dashboard now after : Dashboard} {origin : Snapshot} {fetch : PendingFetch}
  {rest : List PendingFetch} {id : String} {slot : Slot}

/-- No fetch of any widget is out. -/
def Rests (dashboard : Dashboard) : Prop :=
  ∀ {id : String} {slot : Slot}, dashboard.slots.get? id = some slot → slot.tracker.inFlight = []

/--
In the middle of a round that was started at a snapshot: just these fetches are out, at most one for
each widget, and each is what its widget needed at that snapshot.
-/
structure Awaits (origin : Snapshot) (rest : List PendingFetch) (now : Dashboard) : Prop where
  coherent : now.Coherent
  distinct : (rest.map (·.ticket.widget)).Nodup
  out : ∀ fetch ∈ rest, ∃ slot, now.slots.get? fetch.ticket.widget = some slot ∧
    slot.tracker.inFlight = [(fetch.ticket.seq, fetch.ticket.key)] ∧
    fetch.ticket.key = slot.widget.key origin ∧ fetch.request = slot.widget.request origin
  idle : ∀ {id : String} {slot : Slot}, now.slots.get? id = some slot →
    id ∉ rest.map (·.ticket.widget) → slot.tracker.inFlight = []

/-- A slot that starts a fetch has that fetch out. -/
theorem inFlight_beginFetch (begun : (beginFetch origin slot).1 = some fetch) :
    (beginFetch origin slot).2.tracker.inFlight =
      slot.tracker.inFlight ++ [(fetch.ticket.seq, fetch.ticket.key)] := by
  -- The fetch was needed, so the tracker has given out its ticket.
  obtain ⟨needed, _⟩ := of_beginFetch_eq_some begun
  obtain ⟨key, position⟩ := Tracker.current_of_needsFetch needed
  rw [beginFetch_of_needsFetch position needed] at begun ⊢
  cases begun
  rfl

/-- A slot that starts no fetch stays as it is. -/
theorem beginFetch_of_eq_none (unbegun : (beginFetch origin slot).1 = none) :
    slot.tracker.needsFetch = false ∧ (beginFetch origin slot).2 = slot := by
  -- A fetch would have been started if it was needed.
  have unneeded : slot.tracker.needsFetch = false := by
    rw [← isSome_beginFetch slot origin, unbegun, Option.isSome_none]
  exact ⟨unneeded, by rw [beginFetch_of_not_needsFetch unneeded]⟩

/-- No fetch is started exactly when none is needed. -/
theorem pendingFetches_eq_nil_iff :
    dashboard.pendingFetches.1 = [] ↔ dashboard.needsFetch = false := by
  -- The list collects what single slots start, and each starts what it needs.
  have single : ∀ entry : String × Slot, (beginFetch dashboard.snapshot entry.2).1 = none ↔
      ¬entry.2.tracker.needsFetch = true := by
    intro entry
    rw [← isSome_beginFetch entry.2 dashboard.snapshot]
    cases (beginFetch dashboard.snapshot entry.2).1 <;> simp
  rw [pendingFetches, List.filterMap_eq_nil_iff, needsFetch, List.any_eq_false]
  exact forall₂_congr fun entry _ => single entry

/-- Once all needed fetches were started, no widget needs one. -/
theorem needsFetch_pendingFetches : dashboard.pendingFetches.2.needsFetch = false :=
  -- Nothing more could be started.
  pendingFetches_eq_nil_iff.1 dashboard.pendingFetches_pendingFetches

/-- With distinct names, no widget needs a fetch when no slot that is found needs one. -/
theorem needsFetch_eq_false_iff (distinct : dashboard.slots.names.Nodup) :
    dashboard.needsFetch = false ↔ ∀ {id : String} {slot : Slot},
      dashboard.slots.get? id = some slot → slot.tracker.needsFetch = false := by
  -- The search goes through the list of slots, all of which are found under their names.
  simp only [needsFetch, List.any_eq_false, Prod.forall, Slots.mem_iff_get? distinct,
    Bool.not_eq_true]

/-- With distinct names, a dashboard is at rest when no slot in its list has a fetch out. -/
theorem rests_iff (distinct : dashboard.slots.names.Nodup) :
    dashboard.Rests ↔ ∀ entry ∈ dashboard.slots, entry.2.tracker.inFlight = [] := by
  -- With distinct names each slot in the list is the one that is found.
  simp only [Rests, Prod.forall, Slots.mem_iff_get? distinct]

/-- A dashboard at rest awaits the fetches that it starts. -/
theorem Rests.awaits (rests : dashboard.Rests) (coherent : dashboard.Coherent) :
    Awaits dashboard.snapshot dashboard.pendingFetches.1 dashboard.pendingFetches.2 where
  coherent := coherent.pendingFetches
  distinct := by
    -- Each slot starts at most one fetch, which carries the name of the slot.
    refine coherent.distinct.sublist (sublist_map_filterMap fun entry member fetch begun => ?_)
    obtain ⟨_, owner, _⟩ := of_beginFetch_eq_some begun
    exact owner.trans (coherent.named ((Slots.mem_iff_get? coherent.distinct).1 member))
  out := by
    intro fetch started
    obtain ⟨⟨id, slot⟩, member, begun⟩ := List.mem_filterMap.1 started
    -- The slot that has started the fetch is found under the name on the ticket.
    have found := (Slots.mem_iff_get? coherent.distinct).1 member
    obtain ⟨_, owner, position, request⟩ := of_beginFetch_eq_some begun
    have own : fetch.ticket.widget = id := owner.trans (coherent.named found)
    obtain ⟨widget, _⟩ := beginFetch_unmoved slot dashboard.snapshot
    refine ⟨(beginFetch dashboard.snapshot slot).2, ?_, ?_, ?_, ?_⟩
    · rw [get?_pendingFetches, own, found, Option.map_some]
    · rw [inFlight_beginFetch begun, rests found, List.nil_append]
    · rw [widget]
      exact Option.some.inj (position.symm.trans (coherent.observed found))
    · rw [widget, request]
  idle := by
    intro id slot found unstarted
    rw [get?_pendingFetches] at found
    obtain ⟨before, foundBefore, rfl⟩ := Option.map_eq_some_iff.1 found
    cases begun : (beginFetch dashboard.snapshot before).1 with
    | none => rw [(beginFetch_of_eq_none begun).2, rests foundBefore]
    | some fetch =>
      -- A fetch that the slot starts would be one of those that are awaited.
      have started : fetch ∈ dashboard.pendingFetches.1 := List.mem_filterMap.2
        ⟨(id, before), (Slots.mem_iff_get? coherent.distinct).2 foundBefore, begun⟩
      obtain ⟨_, owner, _⟩ := of_beginFetch_eq_some begun
      have own : fetch.ticket.widget = id := owner.trans (coherent.named foundBefore)
      exact absurd (List.mem_map.2 ⟨fetch, started, own⟩) unstarted

/-- Completing the next fetch leaves a dashboard that awaits the others. -/
theorem Awaits.complete (awaits : Awaits origin (fetch :: rest) now)
    (result : Except FetchFailure Response) :
    ∃ slot completion after, now.slots.get? fetch.ticket.widget = some slot ∧
      fetch.ticket.key = slot.widget.key origin ∧
      fetch.request = slot.widget.request origin ∧
      now.complete fetch.ticket result = .ok (completion, after) ∧
      now.Completes fetch.ticket slot result completion after ∧ Awaits origin rest after := by
  obtain ⟨slot, found, inFlight, key, request⟩ := awaits.out fetch List.mem_cons_self
  obtain ⟨completion, after, completed, completes⟩ :=
    complete_spec awaits.coherent.distinct found result
  -- No other fetch that is awaited belongs to the widget, so the others keep theirs.
  obtain ⟨fresh, distinct⟩ := List.nodup_cons.1 awaits.distinct
  refine ⟨slot, completion, after, found, key, request, completed, completes, ?_⟩
  have changed := completes.get? awaits.coherent
  exact {
    coherent := awaits.coherent.completes completes
    distinct
    out := by
      intro other later
      obtain ⟨present, foundOther, outOther, keyOther, requestOther⟩ :=
        awaits.out other (List.mem_cons_of_mem _ later)
      have apart : other.ticket.widget ≠ fetch.ticket.widget := by
        intro same
        exact fresh (List.mem_map.2 ⟨other, later, same⟩)
      refine ⟨present.observe after.snapshot, ?_, outOther, keyOther, requestOther⟩
      rw [changed, foundOther, Option.map_some, if_neg apart]
    idle := by
      intro id present foundAfter answered
      rw [changed] at foundAfter
      obtain ⟨before, foundBefore, rfl⟩ := Option.map_eq_some_iff.1 foundAfter
      by_cases own : id = fetch.ticket.widget
      · -- The only fetch of the widget that was out has landed.
        subst own
        cases found.symm.trans foundBefore
        rw [if_pos rfl]
        refine (Tracker.settle_inFlight result).trans ?_
        simp [Tracker.land, inFlight]
      · rw [if_neg own]
        have unanswered : id ∉ (fetch :: rest).map (·.ticket.widget) := by
          simp only [List.map_cons, List.mem_cons, not_or]
          exact ⟨own, answered⟩
        have quiet := awaits.idle foundBefore unanswered
        exact quiet }

/--
When each fetch has its answer from the start, what completing the next fetch of a round keeps is
kept by the whole round.
-/
theorem Awaits.completeAll_keeps {answer : Request → Except FetchFailure Response}
    (keeps : List PendingFetch → Dashboard → Prop)
    (step : ∀ {fetch : PendingFetch} {rest : List PendingFetch} {now after : Dashboard}
      {slot : Slot} {completion : Completion Reconciliation}, Awaits origin (fetch :: rest) now →
      keeps (fetch :: rest) now → now.slots.get? fetch.ticket.widget = some slot →
      fetch.ticket.key = slot.widget.key origin →
      now.Completes fetch.ticket slot (answer (slot.widget.request origin)) completion after →
      keeps rest after)
    (awaits : Awaits origin rest now) (kept : keeps rest now) (summary : RefreshSummary) :
    ∃ done after, completeAll summary now
        (rest.map fun fetch => (fetch.ticket, answer fetch.request)) = (done, after) ∧
      done.rounds = summary.rounds ∧ Awaits origin [] after ∧ keeps [] after := by
  -- The induction is on the fetches that are still out.
  induction rest generalizing now summary with
  | nil => exact ⟨summary, now, rfl, rfl, awaits, kept⟩
  | cons fetch rest ih =>
    obtain ⟨slot, completion, after, found, key, request, completed, completes, others⟩ :=
      awaits.complete (answer fetch.request)
    rw [request] at completes
    have further := step awaits kept found key completes
    obtain ⟨done, last, all, rounds, ended⟩ := ih others further (summary.count completion)
    refine ⟨done, last, ?_, ?_, ended⟩
    · rw [List.map_cons, Dashboard.completeAll, completed]
      exact all
    · rw [rounds]
      cases completion <;> rfl

/-- When no fetch is needed, none is started, and the dashboard stays as it is. -/
theorem pendingFetches_of_not_needsFetch (unneeded : dashboard.needsFetch = false) :
    dashboard.pendingFetches.2 = dashboard := by
  -- Each slot needs none, and stays as it is.
  have same : dashboard.slots.mapSlots (fun slot => (beginFetch dashboard.snapshot slot).2) =
      dashboard.slots := by
    refine (List.map_congr_left fun entry member => ?_).trans (List.map_id _)
    obtain ⟨id, slot⟩ := entry
    have quiet : slot.tracker.needsFetch = false := by
      simpa using List.any_eq_false.1 unneeded (id, slot) member
    show (id, (beginFetch dashboard.snapshot slot).2) = (id, slot)
    rw [beginFetch_of_not_needsFetch quiet]
  simp only [pendingFetches, same]

section Rounds

variable {σ : Type} (backend : Backend σ) (progress : Progress σ)

/-- A round sends all requests, and then completes the fetches with the answers. -/
theorem runRound_eq (pending : List PendingFetch) : runRound backend progress pending dashboard =
    ⟨(completeAll (progress.summary.countRound pending.length) dashboard
        ((pending.map (·.ticket)).zip
          (backend.executeAll progress.state (pending.map (·.request))).1)).1,
      (backend.executeAll progress.state (pending.map (·.request))).2,
      (completeAll (progress.summary.countRound pending.length) dashboard
        ((pending.map (·.ticket)).zip
          (backend.executeAll progress.state (pending.map (·.request))).1)).2⟩ :=
  rfl

/-- A round is run when a fetch is needed; otherwise the refresh ends. -/
theorem runRounds_succ (rounds : Nat) :
    runRounds backend (rounds + 1) progress =
      if progress.dashboard.needsFetch then
        runRounds backend rounds (runRound backend progress progress.dashboard.pendingFetches.1
          progress.dashboard.pendingFetches.2)
      else { progress with dashboard := progress.dashboard.pendingFetches.2 } := by
  -- That a fetch is needed and that one is pending are the same.
  have started : progress.dashboard.pendingFetches =
      (progress.dashboard.pendingFetches.1, progress.dashboard.pendingFetches.2) := rfl
  rw [runRounds, started]
  cases pending : progress.dashboard.pendingFetches.1 with
  | nil => rw [pendingFetches_eq_nil_iff.1 pending, if_neg Bool.false_ne_true]
  | cons fetch rest =>
    have needed : progress.dashboard.needsFetch = true := by
      by_contra unneeded
      rw [pendingFetches_eq_nil_iff.2 (by simpa using unneeded)] at pending
      cases pending
    rw [needed, if_pos rfl]

/-- When no fetch is needed, a refresh does nothing at all. -/
theorem refresh_of_not_needsFetch (state : σ) (unneeded : dashboard.needsFetch = false) :
    dashboard.refresh backend state = (.empty, state, dashboard) := by
  -- The first round finds nothing to start, if the limit allows a round.
  rw [refresh]
  cases dashboard.config.maxRefreshRounds with
  | zero => simp only [runRounds, RefreshSummary.empty, unneeded]
  | succ rounds =>
    simp only [runRounds_succ, pendingFetches_of_not_needsFetch unneeded, unneeded,
      RefreshSummary.empty, Bool.false_eq_true, if_false]

/-- When no fetch is needed, a refresh starts none. -/
theorem refresh_issued_of_not_needsFetch (state : σ) (unneeded : dashboard.needsFetch = false) :
    (dashboard.refresh backend state).1.issued = 0 := by
  -- The refresh ends before its first round.
  rw [refresh_of_not_needsFetch backend state unneeded]
  rfl

end Rounds

end Dashboard

namespace Session

variable {session : Session} {config : Config}

/-- Every operation keeps a dashboard coherent, also one that completes what was never started. -/
theorem coherent_step (coherent : session.dashboard.Coherent) (operation : Operation) :
    (session.step operation).dashboard.Coherent := by
  -- A refused operation leaves the dashboard alone, and an accepted one keeps it coherent.
  cases operation with
  | setClock now => exact ⟨coherent.distinct, coherent.named, coherent.observed⟩
  | register id widget =>
    exact become_of (fun later => later.dashboard.Coherent) coherent fun _ => coherent.register
  | dispatch event =>
    exact become_of (fun later => later.dashboard.Coherent) coherent fun _ => coherent.dispatch
  | reconcile candidates => exact coherent.reconcile candidates
  | startPending => exact coherent.pendingFetches
  | complete fetch result =>
    cases found : session.dashboard.slots.get? fetch.ticket.widget with
    | none =>
      -- Without a widget the completion is refused.
      simpa only [step, Dashboard.complete, found] using coherent
    | some slot =>
      obtain ⟨completion, after, completed, completes⟩ :=
        Dashboard.complete_spec coherent.distinct found result
      simp only [step, completed]
      exact coherent.completes completes

/-- Whatever was done, the dashboard is coherent. -/
theorem Unrestricted.coherent (run : Unrestricted config session) :
    session.dashboard.Coherent := by
  -- The induction is on the run.
  induction run with
  | start started => exact (consistent_start started).coherent
  | step _ _ before => exact coherent_step before _

/-- Completing fetches one after the other is what a session can do as well. -/
theorem Unrestricted.completeAll (run : Unrestricted config session) (summary : RefreshSummary)
    (answers : List (PendingFetch × Except FetchFailure Response)) :
    ∃ later, Unrestricted config later ∧ later.dashboard =
      (Dashboard.completeAll summary session.dashboard
        (answers.map fun (fetch, result) => (fetch.ticket, result))).2 := by
  -- The induction is on the answers, each of which is one operation.
  induction answers generalizing session summary with
  | nil => exact ⟨session, run, rfl⟩
  | cons answer answers ih =>
    obtain ⟨fetch, result⟩ := answer
    rw [List.map_cons, Dashboard.completeAll]
    cases completed : session.dashboard.complete fetch.ticket result with
    | ok outcome =>
      have stepped : (session.step (.complete fetch result)).dashboard = outcome.2 := by
        simp only [step, completed]
        rfl
      simp only [← stepped]
      exact ih (run.step trivial) _
    | error rejection => exact ih run summary

/-- So are the rounds of a refresh, whatever the backend answers. -/
theorem Unrestricted.runRounds {σ : Type} (backend : Backend σ) (rounds : Nat)
    (run : Unrestricted config session) (progress : Dashboard.Progress σ)
    (same : progress.dashboard = session.dashboard) :
    ∃ later, Unrestricted config later ∧
      later.dashboard = (Dashboard.runRounds backend rounds progress).dashboard := by
  -- A round starts the fetches that are needed and completes them.
  induction rounds generalizing session progress with
  | zero => exact ⟨session, run, same.symm⟩
  | succ rounds ih =>
    have started : Unrestricted config (session.step .startPending) := run.step trivial
    rw [Dashboard.runRounds_succ, same]
    split
    · rw [Dashboard.runRound_eq, List.zip_map_left]
      obtain ⟨later, reached, shown⟩ := started.completeAll
        (progress.summary.countRound session.dashboard.pendingFetches.1.length)
        (session.dashboard.pendingFetches.1.zip (backend.executeAll progress.state
          (session.dashboard.pendingFetches.1.map (·.request))).1)
      exact ih reached _ shown.symm
    · exact ⟨_, started, rfl⟩

/-- What a refresh makes of a dashboard is what a session can make of it, too. -/
theorem Unrestricted.refresh {σ : Type} (backend : Backend σ) (state : σ)
    (run : Unrestricted config session) : ∃ later, Unrestricted config later ∧
      later.dashboard = (session.dashboard.refresh backend state).2.2 :=
  -- The rounds of a refresh are made of operations of a session.
  run.runRounds backend _ _ rfl

end Session

end Viewpoint
