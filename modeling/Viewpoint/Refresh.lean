import Viewpoint.Dashboard
import Viewpoint.Query.Backend

/-! Refreshing: rounds of fetches until no widget needs one. -/

namespace Viewpoint

/-- What a refresh did. -/
structure RefreshSummary where
  rounds : Nat
  issued : Nat
  ready : Nat
  failed : Nat
  discarded : Nat
  reconciled : Nat
  exhausted : Bool
  deriving DecidableEq, Repr

namespace RefreshSummary

/-- Nothing was done. -/
def empty : RefreshSummary :=
  ⟨0, 0, 0, 0, 0, 0, false⟩

/-- Counts the completion of a fetch. -/
def count (summary : RefreshSummary) : Completion Reconciliation → RefreshSummary
  | .ready changes => { summary with
      ready := summary.ready + 1
      reconciled := summary.reconciled + changes.length }
  | .failed _ => { summary with failed := summary.failed + 1 }
  | .discarded => { summary with discarded := summary.discarded + 1 }

/-- Counts a round and the fetches that it starts. -/
def countRound (summary : RefreshSummary) (issued : Nat) : RefreshSummary :=
  { summary with rounds := summary.rounds + 1, issued := summary.issued + issued }

end RefreshSummary

namespace Dashboard

variable {σ : Type}

/-- Completes fetches in their order and counts what becomes of them. -/
def completeAll (summary : RefreshSummary) (dashboard : Dashboard) :
    List (Ticket × Except FetchFailure Response) → RefreshSummary × Dashboard
  | [] => (summary, dashboard)
  | (ticket, result) :: rest =>
    match dashboard.complete ticket result with
    | .ok (completion, dashboard) => completeAll (summary.count completion) dashboard rest
    -- A ticket of an unknown widget is passed over.
    | .error _ => completeAll summary dashboard rest

/-- A refresh under way: what it did so far, the state of the backend, and the dashboard. -/
structure Progress (σ : Type) where
  summary : RefreshSummary
  state : σ
  dashboard : Dashboard

/-- Sends the given fetches of a round, and completes them once all are answered. -/
def runRound (backend : Backend σ) (progress : Progress σ) (pending : List PendingFetch)
    (dashboard : Dashboard) : Progress σ :=
  -- All requests of a round are sent before the first answer is taken.
  let (results, state) := backend.executeAll progress.state (pending.map (·.request))
  let (summary, dashboard) := completeAll (progress.summary.countRound pending.length) dashboard
    ((pending.map (·.ticket)).zip results)
  ⟨summary, state, dashboard⟩

/-- Runs up to the given number of rounds, and fewer if no fetch is needed any more. -/
def runRounds (backend : Backend σ) : Nat → Progress σ → Progress σ
  -- The limit ends a refresh in which each answer calls for another fetch.
  | 0, progress => progress
  | rounds + 1, progress =>
    match progress.dashboard.pendingFetches with
    | ([], dashboard) => { progress with dashboard }
    | (pending, dashboard) => runRounds backend rounds (runRound backend progress pending dashboard)

/-- Fetches until no widget needs a fetch, or the round limit is reached. -/
def refresh (backend : Backend σ) (state : σ) (dashboard : Dashboard) :
    RefreshSummary × σ × Dashboard :=
  let progress := runRounds backend dashboard.config.maxRefreshRounds ⟨.empty, state, dashboard⟩
  ({ progress.summary with exhausted := progress.dashboard.needsFetch }, progress.state,
    progress.dashboard)

end Dashboard

end Viewpoint
