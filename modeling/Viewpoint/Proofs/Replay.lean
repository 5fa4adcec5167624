import Viewpoint.Proofs.Refresh
import Viewpoint.Replay

/-! Replays: where a strict one stops, and that rejected events leave no trace in any other. -/

namespace Viewpoint

/-- What the refreshes of a replay did, the initial one first. -/
def ReplayReport.refreshes (report : ReplayReport) : List RefreshSummary :=
  (report.initialRefresh :: report.steps.map (·.refresh)).filterMap id

namespace Replay

section Strict

variable {α β : Type} {steps : List StepReport} {report : StepReport} {lenient : α}
  {strict : Except ReplayFailure α}

/--
How a strict run ends where a lenient one reports the given steps: as the lenient one does, or with
the cause of the first step that carries an error.
-/
def StopsAtError (steps : List StepReport) (lenient : α) (strict : Except ReplayFailure α) :
    Prop :=
  match steps.find? fun step => step.error.isSome with
  | none => strict = .ok lenient
  | some step => ∃ cause, step.error = some cause.message ∧
      strict = .error (.rejected step.step step.event cause)

/-- Without an error in the first step, the others decide. -/
theorem stopsAtError_cons (unharmed : report.error = none) :
    StopsAtError (report :: steps) lenient strict ↔ StopsAtError steps lenient strict := by
  -- The first step with an error is one of the others.
  simp only [StopsAtError, List.find?_cons, unharmed, Option.isSome_none]

/-- An error in the first step ends a strict run. -/
theorem stopsAtError_of_error {cause : Rejection} (error : report.error = some cause.message) :
    StopsAtError (report :: steps) lenient (.error (.rejected report.step report.event cause)) := by
  -- The first step with an error is this one.
  simp only [StopsAtError, List.find?_cons, error, Option.isSome_some]
  exact ⟨cause, rfl, rfl⟩

/-- What is made of the results afterwards does not matter. -/
theorem StopsAtError.map (stops : StopsAtError steps lenient strict) (f : α → β) :
    StopsAtError steps (f lenient) (strict.map f) := by
  -- A failure stays the same failure.
  simp only [StopsAtError] at stops ⊢
  split
  · rename_i unharmed
    rw [unharmed] at stops
    rw [stops]
    rfl
  · rename_i found
    rw [found] at stops
    obtain ⟨cause, error, failed⟩ := stops
    exact ⟨cause, error, by rw [failed]; rfl⟩

end Strict

variable {fixtures : Option Fixtures} {session : Session} {event : Event} {events : List Event}
  {step other : Nat} {cause : Rejection}

/-- The reports of a run that goes on after rejected events, and the session that it ends in. -/
def reported (fixtures : Option Fixtures) (step : Nat) (session : Session) :
    List Event → List StepReport × Session
  | [] => ([], session)
  | event :: events =>
    let (_, report, next) := runStep fixtures step session event
    let (reports, last) := reported fixtures (step + 1) next events
    (report :: reports, last)

/-- The first step of a run comes before the others, which go on from where it ends. -/
theorem reported_cons (fixtures : Option Fixtures) (step : Nat) (session : Session)
    (event : Event) (events : List Event) :
    reported fixtures step session (event :: events) =
      ((runStep fixtures step session event).2.1 ::
          (reported fixtures (step + 1) (runStep fixtures step session event).2.2 events).1,
        (reported fixtures (step + 1) (runStep fixtures step session event).2.2 events).2) :=
  rfl

/-- A step reports the wording of the cause for which its event was rejected, if it was. -/
theorem error_runStep (fixtures : Option Fixtures) (step : Nat) (session : Session)
    (event : Event) : (runStep fixtures step session event).2.1.error =
      (runStep fixtures step session event).1.map Rejection.message :=
  rfl

/-- A run that is not strict never fails. -/
theorem runSteps_lenient (fixtures : Option Fixtures) (step : Nat) (session : Session)
    (events : List Event) :
    runSteps fixtures false step session events = .ok (reported fixtures step session events) := by
  -- Each event gives its report, rejected or not.
  induction events generalizing step session with
  | nil => rfl
  | cons event events ih =>
    simp only [runSteps, ih]
    rfl

/-- A strict run ends at an event that is rejected. -/
theorem runSteps_of_rejected (rejected : (runStep fixtures step session event).1 = some cause) :
    runSteps fixtures true step session (event :: events) =
      .error (.rejected step event.name cause) := by
  -- A strict run looks at the rejection before it goes on.
  simp only [runSteps, rejected]

/-- After an event that is not rejected, a strict run goes on. -/
theorem runSteps_of_accepted (accepted : (runStep fixtures step session event).1 = none) :
    runSteps fixtures true step session (event :: events) =
      (runSteps fixtures true (step + 1) (runStep fixtures step session event).2.2 events).map
        fun (reports, last) => ((runStep fixtures step session event).2.1 :: reports, last) := by
  -- The report of the step is put in front of those of the others.
  simp only [runSteps, accepted]

/-- A strict run goes as the other one does, up to the first step that carries an error. -/
theorem runSteps_strict (fixtures : Option Fixtures) (step : Nat) (session : Session)
    (events : List Event) :
    StopsAtError (reported fixtures step session events).1 (reported fixtures step session events)
      (runSteps fixtures true step session events) := by
  -- The induction is on the events; an accepted one leads both runs to the same session.
  induction events generalizing step session with
  | nil => rfl
  | cons event events ih =>
    have error := error_runStep fixtures step session event
    cases judged : (runStep fixtures step session event).1 with
    | some cause =>
      rw [runSteps_of_rejected judged]
      exact stopsAtError_of_error (error.trans (by rw [judged]; rfl))
    | none =>
      rw [runSteps_of_accepted judged, reported_cons]
      refine (stopsAtError_cons (error.trans (by rw [judged]; rfl))).2 ?_
      exact (ih (step + 1) (runStep fixtures step session event).2.2).map
        fun (reports, last) => ((runStep fixtures step session event).2.1 :: reports, last)

/-- The steps are numbered one after the other, and go by the names of their events. -/
theorem reported_numbered (fixtures : Option Fixtures) (step : Nat) (session : Session)
    (events : List Event) :
    ((reported fixtures step session events).1.map fun report => (report.event, report.step)) =
      (events.map Event.name).zipIdx step := by
  -- The induction is on the events, for any number of the first one.
  induction events generalizing step session with
  | nil => rfl
  | cons event events ih =>
    rw [reported_cons, List.map_cons, ih, List.map_cons, List.zipIdx_cons]
    rfl

/-- The report of a replay that goes on after rejected events. -/
def reportOf (fixtures : Option Fixtures) (events : List Event) (dashboard : Dashboard) :
    ReplayReport :=
  let (initialRefresh, session) := refresh fixtures ⟨dashboard, []⟩
  let (steps, last) := reported fixtures 1 session events
  ⟨initialRefresh, steps, .capture last.dashboard⟩

variable {config : Config} {script : Script} {now : Instant} {dashboard : Dashboard}

/-- A replay that is not strict gives a report whenever there is a dashboard for it. -/
theorem run_lenient (prepared : setup config script now = .ok dashboard) :
    run config script fixtures now false = .ok (reportOf fixtures script.events dashboard) := by
  -- A run that is not strict goes through all events.
  simp only [run, prepared, runSteps_lenient]
  rfl

/--
A strict replay and one that is not agree.

Without a dashboard both fail alike. Otherwise the lenient one gives a report with one step for each
event; the strict one gives the same report if no step carries an error, and else it fails with the
number and the event of the first step that does, for a cause with the wording of that error.
-/
theorem strict_agrees (config : Config) (script : Script) (fixtures : Option Fixtures)
    (now : Instant) :
    match setup config script now with
    | .error cause => run config script fixtures now false = .error (.setup cause) ∧
        run config script fixtures now true = .error (.setup cause)
    | .ok _ => ∃ report, run config script fixtures now false = .ok report ∧
        (report.steps.map fun step => (step.event, step.step)) =
          (script.events.map Event.name).zipIdx 1 ∧
        StopsAtError report.steps report (run config script fixtures now true) := by
  cases prepared : setup config script now with
  | error cause => simp only [run, prepared, and_self]
  | ok dashboard =>
    refine ⟨_, run_lenient prepared, reported_numbered _ _ _ _, ?_⟩
    -- Both replays are in the same session after the initial refresh.
    have ends := runSteps_strict fixtures 1 (refresh fixtures ⟨dashboard, []⟩).2 script.events
    simp only [run, prepared]
    exact ends.map fun outcome => (⟨(refresh fixtures ⟨dashboard, []⟩).1, outcome.1,
      .capture outcome.2.dashboard⟩ : ReplayReport)

/-- A refresh would do nothing, because no answers are prepared or no fetch is needed. -/
def Settled (fixtures : Option Fixtures) (session : Session) : Prop :=
  fixtures ≠ none → session.dashboard.needsFetch = false

/-- A settled session stays as it is when it is refreshed. -/
theorem Settled.refresh (settled : Settled fixtures session) :
    (Replay.refresh fixtures session).2 = session := by
  cases fixtures with
  | none => rfl
  | some prepared =>
    -- Not even a call reaches the prepared answers.
    simp only [Replay.refresh, Dashboard.refresh_of_not_needsFetch _ _ (settled nofun)]

/-- A refresh that is not exhausted leaves a settled session. -/
theorem settled_refresh (quiet : ∀ summary, (refresh fixtures session).1 = some summary →
    summary.exhausted = false) : Settled fixtures (refresh fixtures session).2 := by
  -- To be exhausted means that fetches are needed after the last round.
  cases fixtures with
  | none => exact fun prepared => absurd rfl prepared
  | some prepared => exact fun _ => quiet _ rfl

/-- So does a step, which ends with its refresh. -/
theorem settled_runStep
    (quiet : ∀ summary, (runStep fixtures step session event).2.1.refresh = some summary →
      summary.exhausted = false) : Settled fixtures (runStep fixtures step session event).2.2 :=
  -- Whether the event is rejected or not, the refresh comes last.
  settled_refresh quiet

/-- Without prepared answers no step reports a refresh. -/
theorem refresh_of_mem_reported {report : StepReport}
    (member : report ∈ (reported none step session events).1) : report.refresh = none := by
  -- The induction is on the events.
  induction events generalizing step session with
  | nil => cases member
  | cons event events ih =>
    rw [reported_cons] at member
    rcases List.mem_cons.1 member with rfl | later
    · rfl
    · exact ih later

/-- A rejected event leaves a settled session as it was, the refresh after it included. -/
theorem Settled.runStep_of_rejected (settled : Settled fixtures session)
    (rejected : (runStep fixtures step session event).1 = some cause) :
    (runStep fixtures step session event).2.2 = session := by
  -- All that a rejected event brings about is the refresh that follows it.
  cases dispatched : session.dashboard.dispatch event with
  | ok after => simp only [runStep, dispatch, dispatched, reduceCtorEq] at rejected
  | error refusal => simpa only [runStep, dispatch, dispatched] using settled.refresh

/-- Under another number, a step does and reports the same. -/
theorem runStep_renumbered (fixtures : Option Fixtures) (step other : Nat) (session : Session)
    (event : Event) : runStep fixtures other session event =
      ((runStep fixtures step session event).1,
        { (runStep fixtures step session event).2.1 with step := other },
        (runStep fixtures step session event).2.2) :=
  rfl

/-- The events whose steps carry no error. -/
def accepted (events : List Event) (steps : List StepReport) : List Event :=
  ((events.zip steps).filter fun (_, step) => step.error.isNone).map Prod.fst

/-- The steps that carry no error, numbered anew from the given number. -/
def renumbered (first : Nat) (steps : List StepReport) : List StepReport :=
  ((steps.filter fun step => step.error.isNone).zipIdx first).map fun (report, step) =>
    { report with step }

/-- Without the events that it rejects, a run of a settled session goes as before. -/
theorem reported_accepted (events : List Event) (step other : Nat)
    (settled : Settled fixtures session)
    (quiet : ∀ report ∈ (reported fixtures step session events).1, ∀ summary,
      report.refresh = some summary → summary.exhausted = false) :
    reported fixtures other session (accepted events (reported fixtures step session events).1) =
      (renumbered other (reported fixtures step session events).1,
        (reported fixtures step session events).2) := by
  -- The induction is on the events; no number and no session is skipped at a rejected one.
  induction events generalizing step other session with
  | nil => rfl
  | cons event events ih =>
    have error := error_runStep fixtures step session event
    rw [reported_cons] at quiet ⊢
    obtain ⟨first, others⟩ := List.forall_mem_cons.1 quiet
    cases judged : (runStep fixtures step session event).1 with
    | some cause =>
      rw [judged, Option.map_some] at error
      rw [settled.runStep_of_rejected judged] at others ⊢
      simpa [accepted, renumbered, error] using ih (step + 1) other settled others
    | none =>
      -- The step stays in both runs, under its own number in each.
      rw [judged, Option.map_none] at error
      have further := ih (step + 1) (other + 1) (settled_runStep first) others
      simp only [accepted, renumbered, List.zip_cons_cons, List.filter_cons, error,
        Option.isNone_none, if_true, List.map_cons, List.zipIdx_cons, reported_cons,
        runStep_renumbered fixtures step other] at further ⊢
      rw [further]

/-- A script without the events that are rejected according to a report. -/
def acceptedScript (script : Script) (report : ReplayReport) : Script :=
  { script with events := accepted script.events report.steps }

/-- A report without the steps of rejected events. -/
def acceptedReport (report : ReplayReport) : ReplayReport :=
  { report with steps := renumbered 1 report.steps }

/-- Without the events that it rejects, a replay reports the other steps and the same state. -/
theorem reportOf_accepted
    (quiet : ∀ summary ∈ (reportOf fixtures events dashboard).refreshes,
      summary.exhausted = false) :
    reportOf fixtures (accepted events (reportOf fixtures events dashboard).steps) dashboard =
      acceptedReport (reportOf fixtures events dashboard) := by
  -- The initial refresh settles the session before the first event.
  have settled : Settled fixtures (refresh fixtures ⟨dashboard, []⟩).2 :=
    settled_refresh fun summary done => quiet summary
      (List.mem_filterMap.2 ⟨_, List.mem_cons_self, done⟩)
  have same := reported_accepted events 1 1 settled
    fun report member summary done => quiet summary (List.mem_filterMap.2
      ⟨_, List.mem_cons_of_mem _ (List.mem_map_of_mem member), done⟩)
  simp only [reportOf, acceptedReport, same]

/-- Without prepared answers nothing is refreshed. -/
theorem refreshes_reportOf_none : (reportOf none events dashboard).refreshes = [] := by
  -- Neither the refresh at the beginning nor any step reports one.
  refine List.filterMap_eq_nil_iff.2 fun made member => ?_
  rcases List.mem_cons.1 member with rfl | member
  · rfl
  · obtain ⟨report, listed, rfl⟩ := List.mem_map.1 member
    exact refresh_of_mem_reported listed

/--
Rejected events leave no trace in a replay, if no answers are prepared or no refresh is exhausted.

Without them the initial refresh and the final state are the same, and the steps are the other ones
with new numbers.
-/
theorem rejected_leave_no_trace (fixtures : Option Fixtures)
    (prepared : setup config script now = .ok dashboard) :
    ∃ report, run config script fixtures now false = .ok report ∧
      (fixtures = none ∨ (∀ summary ∈ report.refreshes, summary.exhausted = false) →
        run config (acceptedScript script report) fixtures now false =
          .ok (acceptedReport report)) := by
  refine ⟨_, run_lenient prepared, fun undisturbed => ?_⟩
  have quiet : ∀ summary ∈ (reportOf fixtures script.events dashboard).refreshes,
      summary.exhausted = false := by
    -- Without prepared answers there is no refresh that could be exhausted.
    rcases undisturbed with rfl | quiet
    · rw [refreshes_reportOf_none]
      exact fun _ => nofun
    · exact quiet
  -- The same widgets are registered, so both replays begin with the same dashboard.
  have others : setup config
      (acceptedScript script (reportOf fixtures script.events dashboard)) now = .ok dashboard :=
    prepared
  rw [run_lenient others]
  exact congrArg Except.ok (reportOf_accepted quiet)

/-- One region is prepared. -/
def regionPrepared : Fixtures :=
  { Fixtures.none with options := [("default", Candidates.none.set .region ["eu"])] }

/-- Between two filters, a user asks to go back to a level that there is not. -/
def straying : Script where
  widgets := [⟨"regions", .options .region⟩, ⟨"chart", .aggregated .region .avg⟩]
  events := [.setFilter .region (some "us"), .drillUp 3, .setFilter .service (some "a")]

/-- The way back is rejected, and without it the same regions are cleared after the last event. -/
theorem rejected_leave_no_trace_straying : ∃ dashboard report,
    setup .standard straying Session.noon = .ok dashboard ∧
      run .standard straying (some regionPrepared) Session.noon false = .ok report ∧
      (∀ summary ∈ report.refreshes, summary.exhausted = false) ∧
      report.steps.map (·.revision) = [1, 1, 3] ∧
      (acceptedScript straying report).events =
        [.setFilter .region (some "us"), .setFilter .service (some "a")] ∧
      run .standard (acceptedScript straying report) (some regionPrepared) Session.noon false =
        .ok (acceptedReport report) := by
  -- The run is evaluated for what it reports, and the run without the rejected event follows.
  obtain ⟨dashboard, prepared, quiet, revisions, events⟩ : ∃ dashboard,
      setup .standard straying Session.noon = .ok dashboard ∧
        (∀ summary ∈ (reportOf (some regionPrepared) straying.events dashboard).refreshes,
          summary.exhausted = false) ∧
        (reportOf (some regionPrepared) straying.events dashboard).steps.map (·.revision) =
          [1, 1, 3] ∧
        (acceptedScript straying
          (reportOf (some regionPrepared) straying.events dashboard)).events =
            [.setFilter .region (some "us"), .setFilter .service (some "a")] :=
    ⟨_, rfl, by decide +kernel, by decide +kernel, by decide +kernel⟩
  obtain ⟨report, ran, omitted⟩ :=
    rejected_leave_no_trace (some regionPrepared) prepared
  cases (run_lenient prepared).symm.trans ran
  exact ⟨dashboard, _, prepared, ran, quiet, revisions, events, omitted (.inr quiet)⟩

end Replay

end Viewpoint
