import Viewpoint.Replay

/-! The report of a replay. -/

namespace Viewpoint

namespace RefreshSummary

/-- A refresh in words. -/
def description (summary : RefreshSummary) : String :=
  s!"fetched {summary.issued} ready {summary.ready} failed {summary.failed} "
    ++ s!"discarded {summary.discarded}"
    ++ (if 0 < summary.reconciled then s!" reconciled {summary.reconciled}" else "")
    ++ (if summary.exhausted then " (round limit)" else "")

/-- The JSON of a summary. -/
def toJson (summary : RefreshSummary) : Json :=
  .record [("rounds", .nat summary.rounds), ("issued", .nat summary.issued),
    ("ready", .nat summary.ready), ("failed", .nat summary.failed),
    ("discarded", .nat summary.discarded), ("reconciled", .nat summary.reconciled),
    ("exhausted", .bool summary.exhausted)]

end RefreshSummary

namespace StepReport

/-- The columns of the table of steps; the last one is as wide as its text. -/
def columns : List Column :=
  [⟨.right, 4⟩, ⟨.left, 18⟩, ⟨.right, 8⟩, ⟨.left, 0⟩]

/-- What became of the event of a step, in words. -/
def result (report : StepReport) : String :=
  match report.error with
  | some error => s!"rejected: {error}"
  | none => (report.refresh.map RefreshSummary.description).getD ""

/-- The line of a step. -/
def line (report : StepReport) : String :=
  tableRow columns [toString report.step, report.event, toString report.revision, report.result]

/-- The JSON of a step. -/
def toJson (report : StepReport) : Json :=
  .record [("step", .nat report.step), ("event", .text report.event),
    ("revision", .nat report.revision), ("error", .orNull .text report.error),
    ("refresh", .orNull RefreshSummary.toJson report.refresh)]

end StepReport

namespace ReplayReport

/-- The lines of the steps of a replay. -/
def stepLines (steps : List StepReport) : List String :=
  if steps.isEmpty then ["No events replayed"]
  else
    [tableRow StepReport.columns ["STEP", "EVENT", "REVISION", "RESULT"], ruler '─' 72]
      ++ steps.map StepReport.line

/-- The lines of the report of a replay. -/
def lines (report : ReplayReport) : List String :=
  (report.initialRefresh.map fun summary => s!"initial: {summary.description}").toList
    ++ stepLines report.steps ++ [""] ++ report.state.lines

/-- The JSON of the report of a replay. -/
def toJson (report : ReplayReport) : Json :=
  .record [("initial_refresh", .orNull RefreshSummary.toJson report.initialRefresh),
    ("steps", .list StepReport.toJson report.steps), ("state", report.state.toJson)]

instance : Report ReplayReport where
  lines := lines
  toJson := toJson

end ReplayReport

end Viewpoint
