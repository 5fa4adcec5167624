import Viewpoint.Proofs.Query.Tracker
import Viewpoint.Proofs.Slots
import Viewpoint.Proofs.Store

/-! What each operation of a dashboard does to the slots of its widgets. -/

namespace Viewpoint

/-- A mapped result is accepted when the result is. -/
theorem map_eq_ok {ε α β : Type} {x : Except ε α} {f : α → β} {b : β} :
    x.map f = .ok b ↔ ∃ a, x = .ok a ∧ f a = b := by
  -- A refusal is mapped to itself.
  cases x <;> simp [Except.map]

/-- Two steps are accepted when the first is, and the second after it. -/
theorem bind_eq_ok {ε α β : Type} {x : Except ε α} {f : α → Except ε β} {b : β} :
    x >>= f = .ok b ↔ ∃ a, x = .ok a ∧ f a = .ok b := by
  -- A refusal of the first step is the result of both.
  cases x <;> simp [bind, Except.bind]

/-- To map a result twice is to map it once by both functions. -/
theorem map_map {ε α β γ : Type} {x : Except ε α} {f : α → β} {g : β → γ} :
    (x.map f).map g = x.map fun a => g (f a) := by
  -- A refusal passes through both.
  cases x <;> rfl

namespace Slot

variable {slot : Slot} {snapshot : Snapshot}

/-- A slot that is at its key for a snapshot has nothing to notice about it. -/
theorem observe_eq_self (position : slot.tracker.current = some (slot.widget.key snapshot)) :
    slot.observe snapshot = slot := by
  -- To notice a snapshot is to move to its key, where the slot is already.
  simp only [observe, Tracker.observe, ← position]

/-- A slot with the answer to one of its fetches taken in. -/
def settle (slot : Slot) (ticket : Ticket) (result : Except FetchFailure Response) : Slot :=
  let (completion, tracker) := slot.tracker.settle ticket result
  { slot with
    tracker
    data := match completion with
      | .ready data => some data
      | _ => slot.data }

/-- An accepted response becomes the data of a slot; all other answers leave the data. -/
theorem settle_data (slot : Slot) (ticket : Ticket) (result : Except FetchFailure Response) :
    (slot.settle ticket result).data =
      if slot.tracker.current = some ticket.key then result.toOption.or slot.data
      else slot.data := by
  -- Only an accepted answer can carry a response, and a failure carries none.
  by_cases position : slot.tracker.current = some ticket.key
  · cases result <;>
      simp [settle, Tracker.settle_of_current _ position, Tracker.completionOf, position,
        Except.toOption]
  · simp [settle, Tracker.settle_of_superseded _ position, position]

end Slot

namespace Dashboard

variable {dashboard after : Dashboard}

/-- Slots that notice a snapshot forget what they noticed before. -/
theorem mapSlots_observe_observe (slots : Slots) (a b : Snapshot) :
    (slots.mapSlots (·.observe a)).mapSlots (·.observe b) = slots.mapSlots (·.observe b) := by
  -- To notice a snapshot overwrites the key and nothing else.
  simp only [Slots.mapSlots, List.map_map]
  rfl

/-- A reconciliation shows its snapshot to all slots and does nothing else to them. -/
theorem reconcile_slots (candidates : Candidates) :
    (dashboard.reconcile candidates).2.slots =
      dashboard.slots.mapSlots (·.observe (dashboard.reconcile candidates).2.snapshot) :=
  rfl

/-- Once the slots notice a snapshot, nothing remains of what an event did to them. -/
theorem handle_slots {event : Event} (handled : dashboard.handle event = .ok after)
    (snapshot : Snapshot) :
    after.slots.mapSlots (·.observe snapshot) = dashboard.slots.mapSlots (·.observe snapshot) := by
  -- Most events leave the slots; two of them show a snapshot, which the next one overwrites.
  cases event with
  | setTimeRange start finish | applyPreset id | drillDown d value | drillNext value
    | drillUp level | setZoom min max | brush min max =>
    obtain ⟨_, _, rfl⟩ := map_eq_ok.1 handled
    rfl
  | setFilter d value | clearFilter d | resetDrill | clearZoom | clearBrush =>
    cases handled
    rfl
  | applyBrush =>
    cases handled
    simp only [applyBrush]
    split
    · rfl
    · split <;> rfl
  | clearAllFilters =>
    cases handled
    exact mapSlots_observe_observe _ _ _
  | optionsLoaded candidates =>
    cases handled
    exact mapSlots_observe_observe _ _ _

/-- An event shows its snapshot to all slots and does nothing else to them. -/
theorem dispatch_slots {event : Event} (dispatched : dashboard.dispatch event = .ok after) :
    after.slots = dashboard.slots.mapSlots (·.observe after.snapshot) := by
  -- Whatever the event did, the slots notice the snapshot at its end.
  obtain ⟨handled, accepted, rfl⟩ := map_eq_ok.1 dispatched
  exact handle_slots accepted handled.snapshot

/-- A widget is registered under a name that no other one has. -/
theorem register_eq_ok {id : String} {widget : Widget}
    (registered : dashboard.register id widget = .ok after) :
    dashboard.slots.get? id = none ∧ after = { dashboard with
      slots := dashboard.slots.insert id (.create id widget dashboard.snapshot) } := by
  -- Of the two tests that a registration has to pass, the second is that the name is new.
  simp only [register, Except.bind] at registered
  split at registered
  · cases registered
  · split at registered
    · cases registered
    · rename_i fresh
      cases registered
      exact ⟨by simpa using fresh, rfl⟩

/-- A widget is registered exactly when it is valid and its name is new. -/
theorem register_eq_ok_iff {id : String} {widget : Widget} :
    dashboard.register id widget = .ok after ↔
      widget.validate = .ok () ∧ dashboard.slots.get? id = none ∧ after = { dashboard with
        slots := dashboard.slots.insert id (.create id widget dashboard.snapshot) } := by
  -- The widget is validated first, and then its name is looked up.
  constructor
  · intro registered
    refine ⟨?_, register_eq_ok registered⟩
    rw [register] at registered
    cases validated : widget.validate with
    | error fault =>
      rw [validated] at registered
      cases registered
    | ok _ => rfl
  · rintro ⟨valid, fresh, rfl⟩
    simp only [register, valid, Except.bind, fresh, Option.isSome_none, Bool.false_eq_true,
      if_false]

/-- The dashboard after a widget has taken the answer to a fetch, before anything is reconciled. -/
def settled (dashboard : Dashboard) (ticket : Ticket) (result : Except FetchFailure Response) :
    Dashboard :=
  { dashboard with slots := dashboard.slots.modify ticket.widget (·.settle ticket result) }

/-- The ways in which a dashboard takes the answer to a fetch of the widget in a slot. -/
inductive Completes (dashboard : Dashboard) (ticket : Ticket) (slot : Slot) :
    Except FetchFailure Response → Completion Reconciliation → Dashboard → Prop where
  | discarded {result : Except FetchFailure Response}
      (elsewhere : slot.tracker.current ≠ some ticket.key) :
      Completes dashboard ticket slot result .discarded (dashboard.settled ticket result)
  | failed {failure : FetchFailure} (position : slot.tracker.current = some ticket.key) :
      Completes dashboard ticket slot (.error failure) (.failed failure)
        (dashboard.settled ticket (.error failure))
  | stored {data : Response} (position : slot.tracker.current = some ticket.key)
      (plain : freshCandidates slot.widget data = none) :
      Completes dashboard ticket slot (.ok data) (.ready []) (dashboard.settled ticket (.ok data))
  | reconciled {data : Response} {candidates : Candidates}
      (position : slot.tracker.current = some ticket.key)
      (fresh : freshCandidates slot.widget data = some candidates) :
      Completes dashboard ticket slot (.ok data)
        (.ready ((dashboard.settled ticket (.ok data)).reconcile candidates).1)
        ((dashboard.settled ticket (.ok data)).reconcile candidates).2

/--
Every widget has a name of its own, which its fetches carry, and is at its key for the current
snapshot.
-/
structure Coherent (dashboard : Dashboard) : Prop where
  distinct : dashboard.slots.names.Nodup
  named : ∀ {id : String} {slot : Slot}, dashboard.slots.get? id = some slot →
    slot.tracker.widget = id
  observed : ∀ {id : String} {slot : Slot}, dashboard.slots.get? id = some slot →
    slot.tracker.current = some (slot.widget.key dashboard.snapshot)

/-- A new dashboard, at a time range. -/
def opening (config : Config) (now : Instant) (range : TimeRange) : Dashboard where
  config
  store := {
    presets := config.presets
    navigator := ⟨config.drillPolicy, config.hierarchy⟩
    now
    current := .initial range
    updates := .opening (.initial range) }
  reconciler := .ofMandatory config.mandatoryDefaults
  brush := .clean
  candidates := .none
  slots := []

/-- To make a dashboard is to check its configuration and to resolve its default preset. -/
theorem create_eq {config : Config} {now : Instant} : create config now = do
    config.validate
    let range ← Preset.resolve config.presets now config.defaultPreset
    return opening config now range := by
  -- The store is made by the same two steps, behind the check of the configuration.
  rw [create, Store.create]
  cases config.validate with
  | error fault => rfl
  | ok _ => cases Preset.resolve config.presets now config.defaultPreset <;> rfl

/--
A dashboard is created for a valid configuration only; it shows the range of the default preset and
has no widget.
-/
theorem create_eq_ok {config : Config} {now : Instant}
    (created : create config now = .ok dashboard) : config.validate = .ok () ∧
      ∃ range, Preset.resolve config.presets now config.defaultPreset = .ok range ∧
        dashboard = opening config now range := by
  -- The dashboard is put around its store, which was made by both steps.
  obtain ⟨store, stored, rfl⟩ := map_eq_ok.1 created
  obtain ⟨valid, range, resolved, rfl⟩ := Store.create_eq_ok stored
  exact ⟨valid, range, resolved, rfl⟩

/-- A new dashboard has no widget. -/
theorem create_slots {config : Config} {now : Instant}
    (created : create config now = .ok dashboard) : dashboard.slots = [] := by
  -- Widgets are only registered later.
  obtain ⟨_, _, _, rfl⟩ := create_eq_ok created
  rfl

/-- A dashboard without widgets is coherent. -/
theorem coherent_of_slots_eq_nil (empty : dashboard.slots = []) : dashboard.Coherent := by
  -- All that is asked for is about slots, and there are none.
  constructor <;> simp [empty, Slots.names, Slots.get?]

/-- Slots that have just noticed the snapshot are at their keys for it. -/
theorem Coherent.of_observe (coherent : dashboard.Coherent)
    (noticed : after.slots = dashboard.slots.mapSlots (·.observe after.snapshot)) :
    after.Coherent where
  -- Names and owners stay, and each slot is moved to its key for the new snapshot.
  distinct := by
    rw [noticed, Slots.names_mapSlots]
    exact coherent.distinct
  named found := by
    rw [noticed, Slots.get?_mapSlots] at found
    obtain ⟨before, foundBefore, rfl⟩ := Option.map_eq_some_iff.1 found
    have named := coherent.named foundBefore
    exact named
  observed found := by
    rw [noticed, Slots.get?_mapSlots] at found
    obtain ⟨before, _, rfl⟩ := Option.map_eq_some_iff.1 found
    rfl

/-- Showing the current snapshot to coherent slots again changes none of them. -/
theorem Coherent.get?_observe (coherent : dashboard.Coherent) (id : String) :
    (dashboard.slots.get? id).map (·.observe dashboard.snapshot) = dashboard.slots.get? id := by
  -- A coherent slot is at its key already.
  cases found : dashboard.slots.get? id with
  | none => rfl
  | some slot => rw [Option.map_some, Slot.observe_eq_self (coherent.observed found)]

/-- An event leaves a coherent dashboard coherent. -/
theorem Coherent.dispatch {event : Event} (coherent : dashboard.Coherent)
    (dispatched : dashboard.dispatch event = .ok after) : after.Coherent :=
  -- An event ends with all widgets noticing what is shown.
  coherent.of_observe (dispatch_slots dispatched)

/-- So does a reconciliation. -/
theorem Coherent.reconcile (coherent : dashboard.Coherent) (candidates : Candidates) :
    (dashboard.reconcile candidates).2.Coherent :=
  -- A reconciliation ends with all widgets noticing what is shown.
  coherent.of_observe (reconcile_slots candidates)

/-- So does a new widget, which starts at its key for the current snapshot. -/
theorem Coherent.register {id : String} {widget : Widget} (coherent : dashboard.Coherent)
    (registered : dashboard.register id widget = .ok after) : after.Coherent := by
  -- The new slot is looked at apart from the old ones, which are where they were.
  obtain ⟨fresh, rfl⟩ := register_eq_ok registered
  exact {
    distinct := Slots.nodup_insert coherent.distinct fresh
    named := by
      intro name slot found
      rw [Slots.get?_insert fresh] at found
      split at found
      · cases found
        simp_all [Slot.create, Slot.observe, Tracker.observe, Tracker.new]
      · exact coherent.named found
    observed := by
      intro name slot found
      rw [Slots.get?_insert fresh] at found
      split at found
      · cases found
        rfl
      · exact coherent.observed found }

/-- A change at an unchanged snapshot keeps coherence when each widget stays where it is. -/
theorem Coherent.of_unmoved (coherent : dashboard.Coherent)
    (names : after.slots.names = dashboard.slots.names)
    (unchanged : after.snapshot = dashboard.snapshot)
    (unmoved : ∀ {id : String} {slot : Slot}, after.slots.get? id = some slot →
      ∃ before, dashboard.slots.get? id = some before ∧ slot.widget = before.widget ∧
        slot.tracker.widget = before.tracker.widget ∧
        slot.tracker.current = before.tracker.current) : after.Coherent where
  -- What coherence asks for was true of the slot before, and no part that it names has changed.
  distinct := names ▸ coherent.distinct
  named found := by
    obtain ⟨before, foundBefore, _, owner, _⟩ := unmoved found
    rw [owner, coherent.named foundBefore]
  observed found := by
    obtain ⟨before, foundBefore, widget, _, position⟩ := unmoved found
    rw [position, coherent.observed foundBefore, widget, unchanged]

section Begin

variable {slot : Slot} {snapshot : Snapshot} {key : QueryKey}

/-- A slot that needs no fetch starts none. -/
theorem beginFetch_of_not_needsFetch (unneeded : slot.tracker.needsFetch = false) :
    beginFetch snapshot slot = (none, slot) := by
  -- The tracker gives no ticket out.
  simp [beginFetch, Tracker.begin_of_not_needsFetch unneeded]

/-- A slot that needs a fetch starts one for its key, with the request for the snapshot. -/
theorem beginFetch_of_needsFetch (position : slot.tracker.current = some key)
    (needed : slot.tracker.needsFetch = true) :
    beginFetch snapshot slot =
      (some ⟨(slot.tracker.start key).1, slot.widget.request snapshot⟩,
        { slot with tracker := (slot.tracker.start key).2 }) := by
  -- The tracker gives a ticket out for the key that it is at.
  simp [beginFetch, Tracker.begin_of_needsFetch position needed]

/-- Starting a fetch leaves a widget with its name, where it is, and with its data. -/
theorem beginFetch_unmoved (slot : Slot) (snapshot : Snapshot) :
    (beginFetch snapshot slot).2.widget = slot.widget ∧
      (beginFetch snapshot slot).2.tracker.widget = slot.tracker.widget ∧
      (beginFetch snapshot slot).2.tracker.current = slot.tracker.current ∧
      (beginFetch snapshot slot).2.data = slot.data := by
  -- A started fetch changes the bookkeeping of the tracker and the status.
  cases needed : slot.tracker.needsFetch with
  | false => simp [beginFetch_of_not_needsFetch needed]
  | true =>
    obtain ⟨key, position⟩ := Tracker.current_of_needsFetch needed
    simp [beginFetch_of_needsFetch position needed, Tracker.start]

/-- After its fetch was started a slot needs none. -/
theorem needsFetch_beginFetch (slot : Slot) (snapshot : Snapshot) :
    (beginFetch snapshot slot).2.tracker.needsFetch = false := by
  -- Either nothing was needed before, or what was needed is out now.
  cases needed : slot.tracker.needsFetch with
  | false => rwa [beginFetch_of_not_needsFetch needed]
  | true =>
    obtain ⟨key, position⟩ := Tracker.current_of_needsFetch needed
    rw [beginFetch_of_needsFetch position needed]
    exact Tracker.needsFetch_start position

/-- A started fetch carries the name of its widget, and its key and request at the snapshot. -/
theorem of_beginFetch_eq_some {fetch : PendingFetch}
    (begun : (beginFetch snapshot slot).1 = some fetch) :
    slot.tracker.needsFetch = true ∧ fetch.ticket.widget = slot.tracker.widget ∧
      slot.tracker.current = some fetch.ticket.key ∧
      fetch.request = slot.widget.request snapshot := by
  -- A fetch that was started was needed, and at the key that the slot was at.
  cases needed : slot.tracker.needsFetch with
  | false => simp [beginFetch_of_not_needsFetch needed] at begun
  | true =>
    obtain ⟨key, position⟩ := Tracker.current_of_needsFetch needed
    rw [beginFetch_of_needsFetch position needed] at begun
    cases begun
    exact ⟨rfl, rfl, position, rfl⟩

/-- A slot starts a fetch exactly when it needs one. -/
theorem isSome_beginFetch (slot : Slot) (snapshot : Snapshot) :
    (beginFetch snapshot slot).1.isSome = slot.tracker.needsFetch := by
  -- The two cases of starting a fetch are told by the need for one.
  cases needed : slot.tracker.needsFetch with
  | false => rw [beginFetch_of_not_needsFetch needed, Option.isSome_none]
  | true =>
    obtain ⟨key, position⟩ := Tracker.current_of_needsFetch needed
    rw [beginFetch_of_needsFetch position needed, Option.isSome_some]

/-- Among the fetches that a list of slots starts, those of one widget come from its own slot. -/
theorem filter_begun {slots : Slots} (distinct : slots.names.Nodup)
    (named : ∀ entry ∈ slots, entry.2.tracker.widget = entry.1) (id : String) :
    (slots.filterMap fun (_, slot) => (beginFetch snapshot slot).1).filter
        (·.ticket.widget = id) =
      ((slots.get? id).bind fun slot => (beginFetch snapshot slot).1).toList := by
  -- Each slot starts at most one fetch, which carries the name of the slot.
  induction slots with
  | nil => rfl
  | cons head rest ih =>
    obtain ⟨name, present⟩ := head
    obtain ⟨fresh, distinct⟩ := List.nodup_cons.1 distinct
    obtain ⟨owner, named⟩ := List.forall_mem_cons.1 named
    specialize ih distinct named
    rw [Slots.get?_cons]
    by_cases found : id = name
    · -- The slot of the widget comes first, and no later slot has its name.
      have absent : Slots.get? rest id = none := Slots.get?_eq_none_iff.2 (found ▸ fresh)
      rw [absent] at ih
      cases begun : (beginFetch snapshot present).1 with
      | none => simpa [begun, found] using ih
      | some fetch =>
        have own : fetch.ticket.widget = name := (of_beginFetch_eq_some begun).2.1.trans owner
        simpa [begun, found, own] using ih
    · cases begun : (beginFetch snapshot present).1 with
      | none => simpa [begun, found] using ih
      | some fetch =>
        have own : fetch.ticket.widget = name := (of_beginFetch_eq_some begun).2.1.trans owner
        simpa [begun, found, own, Ne.symm found] using ih

/-- The fetches that a dashboard starts for a widget are the one that its slot needs, or none. -/
theorem Coherent.filter_pendingFetches (coherent : dashboard.Coherent) (id : String) :
    dashboard.pendingFetches.1.filter (·.ticket.widget = id) =
      ((dashboard.slots.get? id).bind fun slot =>
        (beginFetch dashboard.snapshot slot).1).toList :=
  -- Each slot starts at most one fetch, under its own name, and names are distinct.
  filter_begun coherent.distinct
    (fun _ member => coherent.named ((Slots.mem_iff_get? coherent.distinct).1 member)) id

/-- Every slot starts the fetch that it needs. -/
theorem get?_pendingFetches (dashboard : Dashboard) (id : String) :
    dashboard.pendingFetches.2.slots.get? id =
      (dashboard.slots.get? id).map fun slot => (beginFetch dashboard.snapshot slot).2 := by
  -- The slots are changed in place, one by one.
  rw [pendingFetches, Slots.get?_mapSlots]

/-- A fetch is started for a widget exactly when its slot needs one. -/
theorem Coherent.exists_mem_pendingFetches {id : String} (coherent : dashboard.Coherent)
    (found : dashboard.slots.get? id = some slot) :
    (∃ fetch ∈ dashboard.pendingFetches.1, fetch.ticket.widget = id) ↔
      slot.tracker.needsFetch = true := by
  -- A fetch with the name of the widget is in the list when the list of its fetches is not empty.
  have started := coherent.filter_pendingFetches id
  rw [found, Option.bind_some] at started
  have listed : (∃ fetch ∈ dashboard.pendingFetches.1, fetch.ticket.widget = id) ↔
      (beginFetch dashboard.snapshot slot).1.toList ≠ [] := by
    rw [← started, ne_eq, List.filter_eq_nil_iff]
    simp
  rw [listed, ← isSome_beginFetch slot dashboard.snapshot]
  cases (beginFetch dashboard.snapshot slot).1 <;> simp

/-- Once all needed fetches were started, none is needed. -/
theorem pendingFetches_pendingFetches (dashboard : Dashboard) :
    dashboard.pendingFetches.2.pendingFetches.1 = [] := by
  -- Every slot has just been through the start of its fetch.
  refine List.filterMap_eq_nil_iff.2 fun entry member => ?_
  obtain ⟨before, _, rfl⟩ := List.mem_map.1 member
  have idle := needsFetch_beginFetch before.2 dashboard.snapshot
  exact congrArg Prod.fst (beginFetch_of_not_needsFetch idle)

/-- Starting the fetches that are needed keeps a dashboard coherent. -/
theorem Coherent.pendingFetches (coherent : dashboard.Coherent) :
    dashboard.pendingFetches.2.Coherent := by
  -- The trackers move, the widgets do not.
  refine coherent.of_unmoved (by simp [Dashboard.pendingFetches]) rfl fun {id slot} found => ?_
  rw [get?_pendingFetches] at found
  obtain ⟨before, foundBefore, rfl⟩ := Option.map_eq_some_iff.1 found
  obtain ⟨widget, owner, position, _⟩ := beginFetch_unmoved before dashboard.snapshot
  exact ⟨before, foundBefore, widget, owner, position⟩

end Begin

section Complete

variable {ticket : Ticket} {slot : Slot}

/-- Writing the settled slot over the one that was found is to settle it in its place. -/
theorem modify_eq_settled (distinct : dashboard.slots.names.Nodup)
    (found : dashboard.slots.get? ticket.widget = some slot)
    (result : Except FetchFailure Response) (change : Slot → Slot)
    (same : change slot = slot.settle ticket result) :
    { dashboard with slots := dashboard.slots.modify ticket.widget change } =
      dashboard.settled ticket result := by
  -- The change has to agree with the settlement on the one slot that it meets.
  rw [settled, Slots.modify_congr change (·.settle ticket result) distinct found same]

/-- The answer to a fetch of a registered widget is taken in one of these ways. -/
theorem complete_spec (distinct : dashboard.slots.names.Nodup)
    (found : dashboard.slots.get? ticket.widget = some slot)
    (result : Except FetchFailure Response) :
    ∃ completion after, dashboard.complete ticket result = .ok (completion, after) ∧
      Completes dashboard ticket slot result completion after := by
  -- The cases follow the branches of a completion: the key first, then the answer.
  have update := modify_eq_settled distinct found result
  by_cases position : slot.tracker.current = some ticket.key
  · have settles := Tracker.settle_of_current result position
    cases result with
    | error failure =>
      refine ⟨_, _, ?_, .failed position⟩
      simp only [complete, found, settles, Tracker.completionOf]
      rw [update _ (by simp only [Slot.settle, settles, Tracker.completionOf])]
    | ok data =>
      cases brought : freshCandidates slot.widget data with
      | none =>
        refine ⟨_, _, ?_, .stored position brought⟩
        simp only [complete, found, settles, Tracker.completionOf, brought]
        rw [update _ (by simp only [Slot.settle, settles, Tracker.completionOf])]
      | some candidates =>
        refine ⟨_, _, ?_, .reconciled position brought⟩
        simp only [complete, found, settles, Tracker.completionOf, brought]
        rw [update _ (by simp only [Slot.settle, settles, Tracker.completionOf])]
  · have settles := Tracker.settle_of_superseded result position
    refine ⟨_, _, ?_, .discarded position⟩
    simp only [complete, found, settles]
    rw [update _ (by simp only [Slot.settle, settles])]

/-- An answer is accepted exactly when the widget is at the key of its ticket. -/
theorem Completes.isAccepted_iff {result : Except FetchFailure Response}
    {completion : Completion Reconciliation}
    (completes : Completes dashboard ticket slot result completion after) :
    completion.isAccepted = true ↔ slot.tracker.current = some ticket.key := by
  -- Each way to take an answer tells where the widget was.
  cases completes with
  | discarded elsewhere => simp [Completion.isAccepted, elsewhere]
  | failed position | stored position | reconciled position =>
    simp [Completion.isAccepted, position]

/-- Only the slot that the answer belongs to is settled. -/
theorem get?_settled (ticket : Ticket) (result : Except FetchFailure Response) (id : String) :
    (dashboard.settled ticket result).slots.get? id =
      (dashboard.slots.get? id).map fun slot =>
        if id = ticket.widget then slot.settle ticket result else slot := by
  -- The slots under other names are left alone.
  rw [settled, Slots.get?_modify]
  split
  · rfl
  · exact Option.map_id'.symm

/-- Settling an answer keeps a dashboard coherent. -/
theorem Coherent.settled (coherent : dashboard.Coherent) (ticket : Ticket)
    (result : Except FetchFailure Response) : (dashboard.settled ticket result).Coherent := by
  -- A settled slot stays at its key, whatever it now holds and shows.
  refine coherent.of_unmoved (by simp [Dashboard.settled]) rfl fun {id slot} found => ?_
  rw [get?_settled] at found
  obtain ⟨before, foundBefore, rfl⟩ := Option.map_eq_some_iff.1 found
  refine ⟨before, foundBefore, ?_⟩
  split
  · exact ⟨rfl, Tracker.settle_widget result, Tracker.settle_current result⟩
  · exact ⟨rfl, rfl, rfl⟩

/-- Taking an answer in any of its ways keeps a dashboard coherent. -/
theorem Coherent.completes {result : Except FetchFailure Response}
    {completion : Completion Reconciliation} (coherent : dashboard.Coherent)
    (completes : Completes dashboard ticket slot result completion after) : after.Coherent := by
  -- The slot of the ticket is settled in every way, and one of them reconciles a list after that.
  cases completes with
  | discarded | failed | stored => exact coherent.settled ticket _
  | reconciled => exact (coherent.settled ticket _).reconcile _

/-- After an answer was taken, its own slot has it settled, and all are at the new snapshot. -/
theorem Completes.get? {result : Except FetchFailure Response}
    {completion : Completion Reconciliation} (coherent : dashboard.Coherent)
    (completes : Completes dashboard ticket slot result completion after) (id : String) :
    after.slots.get? id = (dashboard.slots.get? id).map fun slot =>
      (if id = ticket.widget then slot.settle ticket result else slot).observe after.snapshot := by
  -- Without a reconciliation the snapshot is the old one, which the slots have noticed before.
  have noticed : after.slots.get? id =
      ((dashboard.settled ticket result).slots.get? id).map (·.observe after.snapshot) := by
    cases completes with
    | discarded | failed | stored => exact ((coherent.settled ticket _).get?_observe id).symm
    | reconciled => rw [reconcile_slots, Slots.get?_mapSlots]
  rw [noticed, get?_settled, Option.map_map]
  rfl

end Complete

end Dashboard

end Viewpoint
