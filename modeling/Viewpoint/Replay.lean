import Viewpoint.Refresh
import Viewpoint.Report.State
import Viewpoint.Script

/-! Replaying a script against a dashboard, with prepared answers or without any. -/

namespace Viewpoint

/-- What became of one event of a script. -/
structure StepReport where
  step : Nat
  event : String
  revision : Nat
  error : Option String
  refresh : Option RefreshSummary
  deriving DecidableEq, Repr

/-- What became of a script, and the state that it ended in. -/
structure ReplayReport where
  initialRefresh : Option RefreshSummary
  steps : List StepReport
  state : StateReport
  deriving DecidableEq, Repr

/-- Why a replay gives no report: no dashboard for it, or a rejected event where none may be. -/
inductive ReplayFailure where
  | setup (cause : Rejection)
  | rejected (step : Nat) (event : String) (cause : Rejection)
  deriving DecidableEq, Repr

namespace ReplayFailure

/-- The wording of a failed replay. -/
def message : ReplayFailure → String
  | setup cause => cause.message
  | rejected step event cause => s!"step {step} ({event}) rejected: {cause.message}"

/-- The wording of a failed replay, followed by that of its cause. -/
def chain : ReplayFailure → String
  | setup cause => cause.message
  | rejected step event cause =>
    s!"{(rejected step event cause).message}: {cause.message}"

end ReplayFailure

namespace Replay

/-- The dashboard of a replay, with the calls that reached the prepared answers. -/
structure Session where
  dashboard : Dashboard
  calls : List Endpoint
  deriving DecidableEq, Repr

/-- Registers widgets one after the other. -/
def registerAll (dashboard : Dashboard) : List NamedWidget → Except Rejection Dashboard
  | [] => .ok dashboard
  | named :: rest =>
    (dashboard.register named.id named.widget).bind fun dashboard => registerAll dashboard rest

/-- Refreshes the dashboard if there are prepared answers. -/
def refresh (fixtures : Option Fixtures) (session : Session) : Option RefreshSummary × Session :=
  match fixtures with
  | none => (none, session)
  | some fixtures =>
    let (summary, calls, dashboard) :=
      session.dashboard.refresh fixtures.backend session.calls
    (some summary, ⟨dashboard, calls⟩)

/-- Dispatches an event; when it is rejected nothing changes, and the cause is given. -/
def dispatch (session : Session) (event : Event) : Option Rejection × Session :=
  match session.dashboard.dispatch event with
  | .ok dashboard => (none, { session with dashboard })
  | .error cause => (some cause, session)

/-- Dispatches an event, refreshes, and reports both. -/
def runStep (fixtures : Option Fixtures) (step : Nat) (session : Session) (event : Event) :
    Option Rejection × StepReport × Session :=
  let (cause, session) := dispatch session event
  let (summary, session) := refresh fixtures session
  (cause, ⟨step, event.name, session.dashboard.snapshot.revision, cause.map Rejection.message,
    summary⟩, session)

/-- Runs the events of a script; a strict run ends at the first one that is rejected. -/
def runSteps (fixtures : Option Fixtures) (strict : Bool) (step : Nat) (session : Session) :
    List Event → Except ReplayFailure (List StepReport × Session)
  | [] => .ok ([], session)
  | event :: events =>
    match runStep fixtures step session event with
    | (cause, report, session) =>
      match strict, cause with
      | true, some cause => .error (.rejected step event.name cause)
      | _, _ =>
        (runSteps fixtures strict (step + 1) session events).map fun (reports, session) =>
          (report :: reports, session)

/-- The dashboard of a script before its first event. -/
def setup (config : Config) (script : Script) (now : Instant) : Except Rejection Dashboard :=
  (Dashboard.create config now).bind fun dashboard => registerAll dashboard script.widgets

/-- Replays a script at a fixed time. -/
def run (config : Config) (script : Script) (fixtures : Option Fixtures) (now : Instant)
    (strict : Bool) : Except ReplayFailure ReplayReport :=
  match setup config script now with
  | .error cause => .error (.setup cause)
  | .ok dashboard =>
    let (initialRefresh, session) := refresh fixtures ⟨dashboard, []⟩
    (runSteps fixtures strict 1 session script.events).map fun (steps, session) =>
      ⟨initialRefresh, steps, .capture session.dashboard⟩

end Replay

end Viewpoint
