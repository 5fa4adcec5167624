import Viewpoint.Proofs.Candidates
import Viewpoint.Proofs.Refresh

/-! With prepared answers a refresh settles: every round but the last settles a dimension. -/

namespace Viewpoint

namespace Fixtures

variable {fixtures : Fixtures} {widget : Widget} {snapshot : Snapshot}

/-- The prepared answer to a request, which does not depend on the calls before it. -/
def response (fixtures : Fixtures) (request : Request) : Except FetchFailure Response :=
  (fixtures.backend.execute [] request).1

/-- The candidates that the prepared answers bring for a dimension. -/
def listFor (fixtures : Fixtures) (d : Dimension) : Candidates :=
  ((fixtures.candidatesFor d).getD .none).only d

/-- Every request is answered as prepared, however many calls there were. -/
theorem execute_backend (calls : List Endpoint) (request : Request) :
    (fixtures.backend.execute calls request).1 = fixtures.response request := by
  -- The calls are only listed, and no answer depends on the list.
  cases request <;> rfl

/-- So are the requests of a round. -/
theorem executeAll_backend (calls : List Endpoint) (requests : List Request) :
    (fixtures.backend.executeAll calls requests).1 = requests.map fixtures.response := by
  -- The induction is on the requests, for any calls that were made before.
  induction requests generalizing calls with
  | nil => rfl
  | cons request requests ih =>
    rw [Backend.executeAll, List.map_cons, ← execute_backend calls, ← ih]

/-- The candidates that an answer brings are those that are prepared for the dimension asked for. -/
theorem fresh_response {data : Response} {candidates : Candidates}
    (answered : fixtures.response (widget.request snapshot) = .ok data)
    (fresh : Dashboard.freshCandidates widget data = some candidates) :
    ∃ d, widget = .options d ∧ candidates = fixtures.listFor d := by
  -- Only a widget that loads candidates takes them from an answer.
  cases widget with
  | options d =>
    simp only [response, Widget.request, Backend.execute, Backend.respond, backend, answer,
      OptionsRequest.ofSnapshot] at answered
    cases prepared : fixtures.candidatesFor d with
    | none => simp [prepared, Except.map] at answered
    | some lists =>
      simp only [prepared, Except.map, Except.ok.injEq] at answered
      subst answered
      simp only [Dashboard.freshCandidates, Widget.optionsDimension, Option.map_some,
        Option.some.injEq] at fresh
      exact ⟨d, rfl, by rw [listFor, prepared, Option.getD_some, fresh]⟩
  | aggregated | timeseries | metrics =>
    cases data <;> simp [Dashboard.freshCandidates, Widget.optionsDimension] at fresh

/-- The prepared candidates of a dimension say nothing about the others. -/
theorem get_listFor_of_ne {d other : Dimension} (apart : other ≠ d) :
    (fixtures.listFor d).get other = Option.none := by
  -- The list of one dimension alone is prepared for it.
  rw [listFor, Candidates.get_only, if_neg apart]

end Fixtures

namespace Dashboard

variable {fixtures : Fixtures} {dashboard now after : Dashboard} {d : Dimension}

/-- The dimensions whose candidates some widget loads. -/
def optionsDimensions (dashboard : Dashboard) : List Dimension :=
  Dimension.all.filter fun d => dashboard.slots.any fun (_, slot) => slot.widget == .options d

/-- The filter of a dimension is not yet as the prepared candidates ask for. -/
def isUnsettled (fixtures : Fixtures) (dashboard : Dashboard) (d : Dimension) : Bool :=
  Reconciler.valueAfter (dashboard.reconciler.isMandatory d) (dashboard.reconciler.isArmed d)
    ((fixtures.listFor d).get d) (dashboard.snapshot.filters.get d) !=
      dashboard.snapshot.filters.get d

/-- The dimensions whose filters answers can still change. -/
def unsettled (fixtures : Fixtures) (dashboard : Dashboard) : List Dimension :=
  dashboard.optionsDimensions.filter (isUnsettled fixtures dashboard)

/-- Candidates are loaded for the same dimensions while each widget stays. -/
theorem optionsDimensions_congr
    (same : after.slots.map (·.2.widget) = dashboard.slots.map (·.2.widget)) :
    after.optionsDimensions = dashboard.optionsDimensions := by
  -- Whether a dimension counts is told by the widgets alone, not by what they have fetched.
  have listed : ∀ (now : Dashboard) (d : Dimension),
      (now.slots.any fun (_, slot) => slot.widget == .options d) =
        (now.slots.map (·.2.widget)).any (· == .options d) := by
    intro now d
    rw [List.any_map]
    rfl
  simp only [optionsDimensions, listed, same]

/-- A reconciliation replaces no widget. -/
theorem optionsDimensions_reconcile (candidates : Candidates) :
    (dashboard.reconcile candidates).2.optionsDimensions = dashboard.optionsDimensions := by
  -- Slots only notice what is shown then, and keep their widgets.
  refine optionsDimensions_congr ?_
  rw [reconcile_slots, Slots.mapSlots, List.map_map]
  rfl

/-- Nor does an answer that is taken. -/
theorem optionsDimensions_settled (ticket : Ticket) (result : Except FetchFailure Response) :
    (dashboard.settled ticket result).optionsDimensions = dashboard.optionsDimensions := by
  -- The slot of the ticket is changed in place, and its widget stays as well.
  refine optionsDimensions_congr ?_
  rw [settled, Slots.modify, List.map_map]
  refine List.map_congr_left fun entry _ => ?_
  simp only [Function.comp_apply]
  split <;> rfl

/-- An answer settles no dimension before its candidates are reconciled. -/
theorem unsettled_settled (ticket : Ticket) (result : Except FetchFailure Response) :
    (dashboard.settled ticket result).unsettled fixtures = dashboard.unsettled fixtures := by
  -- Neither the widgets nor the filters and latches are changed by the answer itself.
  rw [unsettled, optionsDimensions_settled]
  rfl

/-- Reconciling the prepared candidates of a dimension settles it, and leaves the others. -/
theorem unsettled_reconcile :
    (dashboard.reconcile (fixtures.listFor d)).2.unsettled fixtures =
      (dashboard.unsettled fixtures).filter (· ≠ d) := by
  -- Both sides go through the same dimensions, so each is looked at by itself.
  rw [unsettled, optionsDimensions_reconcile, unsettled, List.filter_filter]
  refine List.filter_congr fun other _ => ?_
  simp only [isUnsettled, isMandatory_reconcile, isArmed_reconcile, get_filters_reconcile]
  by_cases own : other = d
  · -- A value that came out of the list is what the list asks for.
    subst own
    simp [Reconciler.valueAfter_valueAfter]
  · simp [own, Fixtures.get_listFor_of_ne own, Reconciler.valueAfter_missing,
      Reconciler.latchAfter_missing]

/-- The prepared candidates of a dimension that is settled change nothing that is shown. -/
theorem snapshot_reconcile_of_settled (settled : isUnsettled fixtures dashboard d = false) :
    (dashboard.reconcile (fixtures.listFor d)).2.snapshot = dashboard.snapshot := by
  -- The filter of the dimension is at the value that is due, and the others have no list.
  have filters : (dashboard.reconcile (fixtures.listFor d)).2.snapshot.filters =
      dashboard.snapshot.filters := by
    ext1 other
    rw [get_filters_reconcile]
    by_cases own : other = d
    · subst own
      simpa [isUnsettled] using settled
    · rw [Fixtures.get_listFor_of_ne own, Reconciler.valueAfter_missing]
  -- A commit of equal filters is a commit of nothing.
  have same : (dashboard.snapshot.withFilters dashboard.snapshot.filters).sameState
      dashboard.store.current = true := Snapshot.sameState_iff.2 ⟨rfl, rfl, rfl, rfl⟩
  rw [snapshot, reconcile_commits, filters, Store.commit_of_sameState same]
  rfl

/-- A widget that loads candidates makes its dimension one of those that count. -/
theorem mem_optionsDimensions {id : String} {slot : Slot} (coherent : dashboard.Coherent)
    (found : dashboard.slots.get? id = some slot) (loads : slot.widget = .options d) :
    d ∈ dashboard.optionsDimensions := by
  -- A slot that is found under a name is one of the slots.
  have member := (Slots.mem_iff_get? coherent.distinct).2 found
  exact List.mem_filter.2 ⟨d.mem_all, List.any_eq_true.2 ⟨(id, slot), member, by simp [loads]⟩⟩

/-- The prepared candidates of a dimension settle it, or they change nothing that is shown. -/
theorem reconcile_settles_or_keeps (counts : d ∈ dashboard.optionsDimensions) :
    ((dashboard.reconcile (fixtures.listFor d)).2.unsettled fixtures).length <
        (dashboard.unsettled fixtures).length ∨
      (dashboard.reconcile (fixtures.listFor d)).2.unsettled fixtures =
          dashboard.unsettled fixtures ∧
        (dashboard.reconcile (fixtures.listFor d)).2.snapshot = dashboard.snapshot := by
  rw [unsettled_reconcile]
  cases unsettled_d : isUnsettled fixtures dashboard d with
  | true =>
    have member : d ∈ dashboard.unsettled fixtures := List.mem_filter.2 ⟨counts, unsettled_d⟩
    exact .inl (List.length_filter_lt_length_iff_exists.2 ⟨d, member, by simp⟩)
  | false =>
    refine .inr ⟨List.filter_eq_self.2 fun other member => ?_,
      snapshot_reconcile_of_settled unsettled_d⟩
    -- The dimension itself is not among those that are unsettled.
    have apart : other ≠ d := by
      rintro rfl
      rw [(List.mem_filter.1 member).2] at unsettled_d
      cases unsettled_d
    simpa using apart

/-- An answer as prepared settles a dimension, or it changes nothing that is shown. -/
theorem Completes.settles_or_keeps {ticket : Ticket} {slot : Slot} {origin : Snapshot}
    {completion : Completion Reconciliation} (coherent : now.Coherent)
    (found : now.slots.get? ticket.widget = some slot)
    (completes : now.Completes ticket slot (fixtures.response (slot.widget.request origin))
      completion after) :
    (after.unsettled fixtures).length < (now.unsettled fixtures).length ∨
      after.unsettled fixtures = now.unsettled fixtures ∧ after.snapshot = now.snapshot := by
  -- Only an answer with candidates does more than settle its own slot.
  generalize answered : fixtures.response (slot.widget.request origin) = result at completes
  cases completes with
  | discarded | failed | stored => exact .inr ⟨unsettled_settled ticket _, rfl⟩
  | @reconciled data candidates _ fresh =>
    obtain ⟨d, loads, rfl⟩ := Fixtures.fresh_response answered fresh
    have counts : d ∈ (now.settled ticket (.ok data)).optionsDimensions := by
      rw [optionsDimensions_settled]
      exact mem_optionsDimensions coherent found loads
    have unmoved : (now.settled ticket (.ok data)).unsettled fixtures = now.unsettled fixtures :=
      unsettled_settled ticket (.ok data)
    rw [← unmoved]
    exact reconcile_settles_or_keeps counts

/--
How far a round has come that was started at a dashboard: some dimension was settled, or all is
shown as before and no widget needs a fetch whose answer was taken.
-/
def Advances (fixtures : Fixtures) (dashboard : Dashboard) (rest : List PendingFetch)
    (now : Dashboard) : Prop :=
  (now.unsettled fixtures).length < (dashboard.unsettled fixtures).length ∨
    now.unsettled fixtures = dashboard.unsettled fixtures ∧
      now.snapshot = dashboard.snapshot ∧
      ∀ {id : String} {slot : Slot}, now.slots.get? id = some slot →
        id ∉ rest.map (·.ticket.widget) → slot.tracker.needsFetch = false

/-- A slot that has taken an answer for the key that it is at needs no fetch. -/
theorem needsFetch_settle {slot : Slot} {ticket : Ticket} {snapshot : Snapshot}
    (result : Except FetchFailure Response)
    (position : slot.tracker.current = some ticket.key)
    (key : ticket.key = slot.widget.key snapshot) :
    ((slot.settle ticket result).observe snapshot).tracker.needsFetch = false := by
  -- Then the key last answered is the one that the slot is at.
  have settles := Tracker.settle_of_current result position
  simp [Slot.observe, Slot.settle, settles, Tracker.observe, Tracker.needsFetch, key]

variable {fetch : PendingFetch} {rest : List PendingFetch}

/-- Completing the next fetch of a round as prepared goes on with the round. -/
theorem Awaits.advances {slot : Slot} {completion : Completion Reconciliation}
    (awaits : Awaits dashboard.snapshot (fetch :: rest) now)
    (advances : Advances fixtures dashboard (fetch :: rest) now)
    (found : now.slots.get? fetch.ticket.widget = some slot)
    (key : fetch.ticket.key = slot.widget.key dashboard.snapshot)
    (completes : now.Completes fetch.ticket slot
      (fixtures.response (slot.widget.request dashboard.snapshot)) completion after) :
    Advances fixtures dashboard rest after := by
  have changed := completes.get? awaits.coherent
  have step := completes.settles_or_keeps awaits.coherent found
  -- The round has settled a dimension before, or does so now, or still shows its snapshot.
  rcases advances with settled | ⟨same, shown, quiet⟩
  · -- What was settled stays so.
    refine .inl ?_
    rcases step with more | ⟨kept, _⟩
    · exact Nat.lt_trans more settled
    · rwa [kept]
  · rcases step with more | ⟨kept, still⟩
    · exact .inl (same ▸ more)
    · refine .inr ⟨kept.trans same, still.trans shown, fun {id present} foundAfter answered => ?_⟩
      rw [changed] at foundAfter
      obtain ⟨before, foundBefore, rfl⟩ := Option.map_eq_some_iff.1 foundAfter
      have position := awaits.coherent.observed foundBefore
      by_cases own : id = fetch.ticket.widget
      · -- The answer was for the key that the widget is at.
        subst own
        cases found.symm.trans foundBefore
        rw [if_pos rfl, still, shown]
        rw [shown, ← key] at position
        exact needsFetch_settle _ position key
      · rw [if_neg own, still, Slot.observe_eq_self position]
        refine quiet foundBefore ?_
        simp only [List.map_cons, List.mem_cons, not_or]
        exact ⟨own, answered⟩

/-- Completing all fetches of a round as prepared ends the round. -/
theorem Awaits.completeAll (awaits : Awaits dashboard.snapshot rest now)
    (advances : Advances fixtures dashboard rest now) (summary : RefreshSummary) :
    ∃ done after, completeAll summary now
        (rest.map fun fetch => (fetch.ticket, fixtures.response fetch.request)) = (done, after) ∧
      done.rounds = summary.rounds ∧ Awaits dashboard.snapshot [] after ∧
      Advances fixtures dashboard [] after :=
  -- Each completion keeps what advances, so all of them do.
  awaits.completeAll_keeps (Advances fixtures dashboard)
    (fun awaits advances found key completes => awaits.advances advances found key completes)
    advances summary

/-- At the start of a round nothing has changed, and widgets without a fetch need none. -/
theorem advances_pendingFetches (fixtures : Fixtures) (dashboard : Dashboard) :
    Advances fixtures dashboard dashboard.pendingFetches.1 dashboard.pendingFetches.2 := by
  have same : dashboard.pendingFetches.2.optionsDimensions = dashboard.optionsDimensions := by
    refine optionsDimensions_congr ?_
    rw [pendingFetches, Slots.mapSlots, List.map_map]
    exact List.map_congr_left fun entry _ => (beginFetch_unmoved entry.2 dashboard.snapshot).1
  refine .inr ⟨by rw [unsettled, same]; rfl, rfl, fun found _ => ?_⟩
  -- A slot that has been through the start of its fetch needs none.
  rw [get?_pendingFetches] at found
  obtain ⟨before, _, rfl⟩ := Option.map_eq_some_iff.1 found
  exact needsFetch_beginFetch before dashboard.snapshot

/-- With prepared answers, each fetch of a round is completed with its own answer. -/
theorem runRound_prepared (progress : Progress (List Endpoint)) (pending : List PendingFetch) :
    runRound fixtures.backend progress pending dashboard =
      ⟨(completeAll (progress.summary.countRound pending.length) dashboard
          (pending.map fun fetch => (fetch.ticket, fixtures.response fetch.request))).1,
        (fixtures.backend.executeAll progress.state (pending.map (·.request))).2,
        (completeAll (progress.summary.countRound pending.length) dashboard
          (pending.map fun fetch => (fetch.ticket, fixtures.response fetch.request))).2⟩ := by
  -- The answers do not depend on the calls before.
  have answers : (pending.map (·.ticket)).zip
        (fixtures.backend.executeAll progress.state (pending.map (·.request))).1 =
      pending.map fun fetch => (fetch.ticket, fixtures.response fetch.request) := by
    rw [Fixtures.executeAll_backend, List.map_map, List.zip_map']
    rfl
  rw [runRound_eq, answers]

/-- A round as prepared ends at rest, with a dimension settled or no fetch needed any more. -/
theorem runRound_settles (progress : Progress (List Endpoint))
    (coherent : progress.dashboard.Coherent) (rests : progress.dashboard.Rests) :
    ∃ after, runRound fixtures.backend progress progress.dashboard.pendingFetches.1
        progress.dashboard.pendingFetches.2 = after ∧
      after.summary.rounds = progress.summary.rounds + 1 ∧ after.dashboard.Coherent ∧
      after.dashboard.Rests ∧
      ((after.dashboard.unsettled fixtures).length <
          (progress.dashboard.unsettled fixtures).length ∨
        after.dashboard.needsFetch = false) := by
  -- When the last fetch is completed, every slot is idle, and one of the two ways to advance is
  -- left.
  obtain ⟨done, after, all, rounds, ended, advanced⟩ :=
    (rests.awaits coherent).completeAll (advances_pendingFetches fixtures _)
      (progress.summary.countRound progress.dashboard.pendingFetches.1.length)
  refine ⟨_, rfl, ?_⟩
  rw [runRound_prepared, all]
  refine ⟨rounds, ended.coherent, fun found => ended.idle found List.not_mem_nil, ?_⟩
  rcases advanced with settled | ⟨_, _, quiet⟩
  · exact .inl settled
  · exact .inr ((needsFetch_eq_false_iff ended.coherent.distinct).2
      fun found => quiet found List.not_mem_nil)

/-- The number of rounds that a refresh still runs at most. -/
def roundsLeft (fixtures : Fixtures) (dashboard : Dashboard) : Nat :=
  if dashboard.needsFetch then (dashboard.unsettled fixtures).length + 1 else 0

/-- With enough rounds a refresh as prepared ends with no fetch needed. -/
theorem runRounds_settles (rounds : Nat) (progress : Progress (List Endpoint))
    (coherent : progress.dashboard.Coherent) (rests : progress.dashboard.Rests)
    (enough : progress.dashboard.roundsLeft fixtures ≤ rounds) :
    (runRounds fixtures.backend rounds progress).dashboard.needsFetch = false ∧
      (runRounds fixtures.backend rounds progress).summary.rounds ≤
        progress.summary.rounds + progress.dashboard.roundsLeft fixtures := by
  -- The induction is on the limit; each round that is run leaves fewer to run after it.
  induction rounds generalizing progress with
  | zero =>
    -- A refresh that may not run any round has to be done already.
    have unneeded : progress.dashboard.needsFetch = false := by
      by_contra needed
      rw [roundsLeft, if_pos (by simpa using needed)] at enough
      omega
    exact ⟨unneeded, Nat.le_add_right _ _⟩
  | succ rounds ih =>
    rw [runRounds_succ]
    split
    · rename_i needed
      obtain ⟨after, run, counted, coherent, rests, settles⟩ :=
        runRound_settles progress coherent rests
      rw [roundsLeft, if_pos needed] at enough ⊢
      -- Either a dimension fewer is unsettled, or this was the last round.
      have fewer : after.dashboard.roundsLeft fixtures ≤
          (progress.dashboard.unsettled fixtures).length := by
        rw [roundsLeft]
        split
        · rename_i still
          rcases settles with less | unneeded
          · exact less
          · rw [still] at unneeded
            cases unneeded
        · exact Nat.zero_le _
      rw [run]
      obtain ⟨unneeded, bound⟩ := ih after coherent rests (by omega)
      exact ⟨unneeded, by omega⟩
    · exact ⟨needsFetch_pendingFetches, Nat.le_add_right _ _⟩

end Dashboard

namespace Session

variable {session : Session} {config : Config}

/--
With prepared answers a refresh that finds no fetch out ends within one round more than there are
dimensions whose candidates are loaded. It is not exhausted, and a second one starts no fetch.
-/
theorem refresh_converges (run : Unrestricted config session) (rests : session.dashboard.Rests)
    (fixtures : Fixtures) (calls : List Endpoint)
    (enough : session.dashboard.optionsDimensions.length + 1 ≤
      session.dashboard.config.maxRefreshRounds) :
    ∃ summary called after,
      session.dashboard.refresh fixtures.backend calls = (summary, called, after) ∧
      summary.rounds ≤ session.dashboard.optionsDimensions.length + 1 ∧
      summary.exhausted = false ∧
      (after.refresh fixtures.backend called).1.issued = 0 := by
  -- No more dimensions are unsettled than there are.
  have few : (session.dashboard.unsettled fixtures).length ≤
      session.dashboard.optionsDimensions.length := List.length_filter_le _ _
  have left : session.dashboard.roundsLeft fixtures ≤
      session.dashboard.optionsDimensions.length + 1 := by
    rw [Dashboard.roundsLeft]
    split <;> omega
  -- With enough rounds allowed, the measure runs out before they do.
  obtain ⟨unneeded, bound⟩ := Dashboard.runRounds_settles
    session.dashboard.config.maxRefreshRounds ⟨.empty, calls, session.dashboard⟩ run.coherent rests
    (Nat.le_trans left enough)
  refine ⟨_, _, _, rfl, ?_, unneeded, Dashboard.refresh_issued_of_not_needsFetch _ _ unneeded⟩
  exact Nat.le_trans bound (by simpa [RefreshSummary.empty] using left)

/-- A chart, and a selector that loads the candidates for the metric. -/
def selecting : Session :=
  [.register "chart" chart, .register "metric" (.options .metricName)].foldl step fresh

/-- One candidate is prepared for the metric. -/
def latencyPrepared : Fixtures :=
  { Fixtures.none with options := [("default", Candidates.none.set .metricName ["latency"])] }

/-- The default of the metric makes the chart fetch again, which takes the second of two rounds. -/
theorem refresh_converges_selecting :
    Unrestricted .standard selecting ∧ selecting.dashboard.Rests ∧
      selecting.dashboard.optionsDimensions = [.metricName] ∧
      ∃ summary called after,
        selecting.dashboard.refresh latencyPrepared.backend [] = (summary, called, after) ∧
        summary.rounds ≤ 2 ∧ summary.exhausted = false ∧
        (after.refresh latencyPrepared.backend called).1.issued = 0 := by
  -- One dimension counts, so the bound is two.
  have run : Unrestricted .standard selecting := (Run.start fresh_isStart).steps (by decide)
  have rests : selecting.dashboard.Rests :=
    (Dashboard.rests_iff run.coherent.distinct).2 (by decide)
  have dimensions : selecting.dashboard.optionsDimensions = [.metricName] := by decide
  have converges := refresh_converges run rests latencyPrepared [] (by decide)
  rw [dimensions] at converges
  exact ⟨run, rests, dimensions, converges⟩

example : (selecting.dashboard.refresh latencyPrepared.backend []).1.rounds = 2 := by
  decide

end Session

end Viewpoint
