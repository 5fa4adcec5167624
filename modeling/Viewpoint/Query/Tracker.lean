import Viewpoint.Query.Key
import Viewpoint.Query.Response

/-! Tracking the fetches of one widget, which may be answered in any order. -/

namespace Viewpoint

/-- A fetch that was started: for which widget, as which of its fetches, and for which key. -/
structure Ticket where
  widget : String
  seq : Nat
  key : QueryKey
  deriving DecidableEq, Repr

/-- Where a widget stands. -/
inductive WidgetStatus where
  | idle
  | loading
  | ready
  | failed (failure : FetchFailure)
  deriving DecidableEq, Repr

namespace WidgetStatus

/-- The name of a status. -/
def name : WidgetStatus → String
  | idle => "idle"
  | loading => "loading"
  | ready => "ready"
  | failed _ => "failed"

/-- The name of a status, with the failure if there is one. -/
def shown : WidgetStatus → String
  | failed failure => s!"failed: {failure.message}"
  | status => status.name

end WidgetStatus

/-- What becomes of the answer to a fetch. -/
inductive Completion (α : Type) where
  | ready (data : α)
  | failed (failure : FetchFailure)
  | discarded
  deriving DecidableEq, Repr

namespace Completion

/-- An answer is accepted unless it is discarded. -/
def isAccepted {α : Type} : Completion α → Bool
  | discarded => false
  | _ => true

/-- Replaces the data of an answer. -/
def map {α β : Type} (f : α → β) : Completion α → Completion β
  | ready data => .ready (f data)
  | failed failure => .failed failure
  | discarded => .discarded

end Completion

/--
The fetches of one widget: the key it is at, the key of the last accepted answer with the status
that it gave, the fetches that are still out with their keys, and the status to show.

Fetches are numbered without end by `nextSeq`. A counter of one word would be full after 2^64
fetches, and such runs are left out.
-/
structure Tracker where
  widget : String
  current : Option QueryKey
  completed : Option QueryKey
  settled : WidgetStatus
  inFlight : List (Nat × QueryKey)
  nextSeq : Nat
  status : WidgetStatus
  deriving DecidableEq, Repr

namespace Tracker

/-- A tracker that has not seen any key. -/
def new (widget : String) : Tracker :=
  ⟨widget, none, none, .idle, [], 0, .idle⟩

/-- The widget is at the given key from now on. -/
def observe (tracker : Tracker) (key : QueryKey) : Tracker :=
  -- The status stays, so it may speak of a key that the widget has left.
  { tracker with current := some key }

/-- The key is new to the widget when it is at another one. -/
def isNews (tracker : Tracker) (key : QueryKey) : Bool :=
  tracker.current != some key

/-- A fetch for the key is out. -/
def isOut (tracker : Tracker) (key : QueryKey) : Bool :=
  tracker.inFlight.any fun (_, other) => other == key

/-- A fetch is needed when the current key has no answer and none is on its way. -/
def needsFetch (tracker : Tracker) : Bool :=
  match tracker.current with
  | none => false
  | some key => tracker.completed != some key && !tracker.isOut key

/-- Starts a fetch for a key. -/
def start (tracker : Tracker) (key : QueryKey) : Ticket × Tracker :=
  (⟨tracker.widget, tracker.nextSeq, key⟩,
    { tracker with
      inFlight := tracker.inFlight ++ [(tracker.nextSeq, key)]
      nextSeq := tracker.nextSeq + 1
      status := .loading })

/-- Starts a fetch for the current key, if one is needed. -/
def begin (tracker : Tracker) : Option (Ticket × Tracker) :=
  if tracker.needsFetch then tracker.current.map tracker.start else none

/-- The fetch of a ticket is no longer out. -/
def land (tracker : Tracker) (ticket : Ticket) : Tracker :=
  { tracker with inFlight := tracker.inFlight.filter fun (seq, _) => seq != ticket.seq }

/--
The status once an answer was discarded.

With nothing out any more the widget is not loading: it shows the answer to its key if it has one.
-/
def statusAfterDiscard (tracker : Tracker) : WidgetStatus :=
  -- A fetch that is out will settle the status itself, so it is left to that one.
  if tracker.inFlight.isEmpty && tracker.status == .loading then
    if tracker.completed.isSome && tracker.completed == tracker.current then tracker.settled
    else .idle
  else tracker.status

/-- The status that an answer gives. -/
def statusOf {α : Type} : Except FetchFailure α → WidgetStatus
  | .ok _ => .ready
  | .error failure => .failed failure

/-- The completion of a fetch whose answer is accepted. -/
def completionOf {α : Type} : Except FetchFailure α → Completion α
  | .ok data => .ready data
  | .error failure => .failed failure

/-- Takes the answer to a fetch, which is accepted only for the key that the widget is at. -/
def settle {α : Type} (tracker : Tracker) (ticket : Ticket) (result : Except FetchFailure α) :
    Completion α × Tracker :=
  -- The fetch is no longer out, whether its answer is accepted or not.
  let landed := tracker.land ticket
  if tracker.current = some ticket.key then
    let status := statusOf result
    (completionOf result, { landed with completed := some ticket.key, settled := status, status })
  else (.discarded, { landed with status := landed.statusAfterDiscard })

end Tracker

end Viewpoint
