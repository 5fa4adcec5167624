import Viewpoint.Proofs.Events
import Viewpoint.Proofs.Refresh

/-! Giving widgets other names: what is done to the dashboard does not see the names as such. -/

namespace Viewpoint

/-- A slot under the new name of its widget. -/
def Slot.rename (rename : String → String) (slot : Slot) : Slot :=
  { slot with tracker := { slot.tracker with widget := rename slot.tracker.widget } }

/-- A ticket under the new name of its widget. -/
def Ticket.rename (rename : String → String) (ticket : Ticket) : Ticket :=
  { ticket with widget := rename ticket.widget }

/-- A fetch under the new name of its widget. -/
def PendingFetch.rename (rename : String → String) (fetch : PendingFetch) : PendingFetch :=
  { fetch with ticket := fetch.ticket.rename rename }

/-- Slots under new names, in the order in which they were. -/
def Slots.rename (rename : String → String) (slots : Slots) : Slots :=
  slots.map fun (id, slot) => (rename id, slot.rename rename)

/-- A dashboard with new names for its widgets. -/
def Dashboard.rename (rename : String → String) (dashboard : Dashboard) : Dashboard :=
  { dashboard with slots := dashboard.slots.rename rename }

/-- A refresh under way, with new names for the widgets. -/
def Dashboard.Progress.rename {σ : Type} (rename : String → String) (progress : Progress σ) :
    Progress σ :=
  { progress with dashboard := progress.dashboard.rename rename }

/-- A renaming gives different names to different widgets. -/
def TellsApart (rename : String → String) (names : List String) : Prop :=
  ∀ id ∈ names, ∀ other ∈ names, rename id = rename other → id = other

instance (rename : String → String) (names : List String) : Decidable (TellsApart rename names) :=
  inferInstanceAs (Decidable (∀ id ∈ names, ∀ other ∈ names, _ → _))

/-- A renaming keeps the order of widgets. -/
def KeepsOrder (rename : String → String) (names : List String) : Prop :=
  ∀ id ∈ names, ∀ other ∈ names, id < other → rename id < rename other

/-- A renaming that keeps the order of names tells them apart. -/
theorem KeepsOrder.tellsApart {rename : String → String} {names : List String}
    (ordered : KeepsOrder rename names) : TellsApart rename names := by
  intro id member other memberOther same
  -- Of two different names one comes first, and it would come before itself.
  refine String.le_antisymm (String.not_lt.1 fun behind => ?_) (String.not_lt.1 fun before => ?_)
  · have moved := ordered other memberOther id member behind
    rw [same] at moved
    exact String.lt_irrefl _ moved
  · have moved := ordered id member other memberOther before
    rw [same] at moved
    exact String.lt_irrefl _ moved

/-- It puts a name before another only where it was before. -/
theorem KeepsOrder.lt_iff {rename : String → String} {names : List String}
    (ordered : KeepsOrder rename names) {id other : String} (member : id ∈ names)
    (memberOther : other ∈ names) : rename id < rename other ↔ id < other := by
  -- Names are in one order or the other, and the new ones follow it.
  refine ⟨fun before => ?_, ordered id member other memberOther⟩
  by_cases first : id < other
  · exact first
  · by_cases behind : other < id
    · exact absurd before (String.lt_asymm (ordered other memberOther id member behind))
    · have same := String.le_antisymm (String.not_lt.1 behind) (String.not_lt.1 first)
      rw [same] at before
      exact absurd before (String.lt_irrefl _)

section Renamed

variable {rename : String → String} {slots : Slots} {slot : Slot} {id : String} {ticket : Ticket}

namespace Slots

/-- The names of the slots are the new ones. -/
theorem names_rename : (slots.rename rename).names = slots.names.map rename := by
  -- Each slot is listed with its new name.
  simp only [names, Slots.rename, List.map_map]
  rfl

/-- The slot of a widget is found under its new name. -/
theorem get?_rename (apart : TellsApart rename slots.names) (member : id ∈ slots.names) :
    (slots.rename rename).get? (rename id) = (slots.get? id).map (·.rename rename) := by
  have named : ∀ other ∈ slots.names, rename id = rename other → id = other := apart id member
  -- The induction needs of the names only that none is mistaken for the one looked up.
  clear apart member
  induction slots with
  | nil => rfl
  | cons head rest ih =>
    obtain ⟨name, present⟩ := head
    obtain ⟨first, others⟩ := List.forall_mem_cons.1 named
    change get? ((rename name, present.rename rename) :: Slots.rename rename rest) (rename id) = _
    rw [get?_cons, get?_cons, ih others]
    by_cases found : id = name
    · simp [found]
    · have other : rename id ≠ rename name := fun same => found (first same)
      rw [if_neg found, if_neg other]

/-- A slot that is changed under its new name is changed as under the old one. -/
theorem modify_rename (apart : TellsApart rename slots.names) (member : id ∈ slots.names)
    {change renamed : Slot → Slot}
    (same : ∀ slot, renamed (slot.rename rename) = (change slot).rename rename) :
    (slots.rename rename).modify (rename id) renamed = (slots.modify id change).rename rename := by
  -- Names are told apart, so the same slot is meant by the new name.
  simp only [modify, Slots.rename, List.map_map]
  refine List.map_congr_left fun entry listed => ?_
  obtain ⟨name, present⟩ := entry
  have named := apart name (List.mem_map.2 ⟨_, listed, rfl⟩) id member
  by_cases own : name = id
  · simp [own, same]
  · have other : rename name ≠ rename id := fun taken => own (named taken)
    simp [own, other]

/-- Changes of all slots may come before the new names or after them. -/
theorem mapSlots_rename {change : Slot → Slot}
    (same : ∀ slot, change (slot.rename rename) = (change slot).rename rename) :
    (slots.rename rename).mapSlots change = (slots.mapSlots change).rename rename := by
  -- Each slot is changed by itself.
  simp only [mapSlots, Slots.rename, List.map_map]
  refine List.map_congr_left fun entry _ => ?_
  simp only [Function.comp_apply, same]

/-- A new slot has the same place under the new names when they keep the order. -/
theorem insert_rename (ordered : ∀ other ∈ slots.names, rename id < rename other ↔ id < other) :
    (slots.rename rename).insert (rename id) (slot.rename rename) =
      (slots.insert id slot).rename rename := by
  -- The induction is on the slots that the new one is compared with.
  induction slots with
  | nil => rfl
  | cons head rest ih =>
    obtain ⟨name, present⟩ := head
    obtain ⟨first, others⟩ := List.forall_mem_cons.1 ordered
    change insert (rename id) _
      ((rename name, present.rename rename) :: Slots.rename rename rest) = _
    simp only [insert, first]
    split
    · rfl
    · rw [ih others]
      rfl

end Slots

namespace Dashboard

variable {dashboard after : Dashboard}

/-- Candidates are reconciled without a look at the names of widgets. -/
theorem reconcile_rename (rename : String → String) (dashboard : Dashboard)
    (candidates : Candidates) :
    (dashboard.rename rename).reconcile candidates =
      ((dashboard.reconcile candidates).1, (dashboard.reconcile candidates).2.rename rename) := by
  -- Only the slots have names, and they do nothing but notice what is shown.
  have noticed : (dashboard.slots.rename rename).mapSlots
        (·.observe (dashboard.reconcile candidates).2.snapshot) =
      (dashboard.slots.mapSlots
        (·.observe (dashboard.reconcile candidates).2.snapshot)).rename rename :=
    Slots.mapSlots_rename fun _ => rfl
  exact congrArg (fun slots => ((dashboard.reconcile candidates).1,
    { (dashboard.reconcile candidates).2 with slots })) noticed

/-- So are events handled. -/
theorem dispatch_rename (rename : String → String) (dashboard : Dashboard) (event : Event) :
    (dashboard.rename rename).dispatch event =
      (dashboard.dispatch event).map (·.rename rename) := by
  -- Neither the proposal nor what is done with it looks at the slots.
  have proposed : (dashboard.rename rename).proposes event = dashboard.proposes event := by
    cases event <;> rfl
  have enacted : ∀ proposal, (dashboard.rename rename).enact event proposal =
      (dashboard.enact event proposal).rename rename := by
    intro proposal
    have same : ((dashboard.rename rename).rearmedBy event).adopt proposal =
        ((dashboard.rearmedBy event).adopt proposal).rename rename := by
      cases event <;> rfl
    have loaded : (dashboard.rename rename).loadedBy event = dashboard.loadedBy event := by
      cases event <;> rfl
    rw [enact, same, loaded, reconcile_rename]
    rfl
  rw [dispatch_eq, dispatch_eq, proposed, map_map]
  exact congrArg (Except.map · _) (funext enacted)

/-- A slot starts its fetch under the new name. -/
theorem beginFetch_rename (snapshot : Snapshot) (slot : Slot) :
    beginFetch snapshot (slot.rename rename) =
      ((beginFetch snapshot slot).1.map (·.rename rename),
        (beginFetch snapshot slot).2.rename rename) := by
  -- The name is only copied to the ticket.
  have same : (slot.rename rename).tracker.needsFetch = slot.tracker.needsFetch := rfl
  cases needed : slot.tracker.needsFetch with
  | false =>
    rw [beginFetch_of_not_needsFetch needed, beginFetch_of_not_needsFetch (same.trans needed)]
    rfl
  | true =>
    obtain ⟨key, position⟩ := Tracker.current_of_needsFetch needed
    have positionRenamed : (slot.rename rename).tracker.current = some key := position
    rw [beginFetch_of_needsFetch position needed,
      beginFetch_of_needsFetch positionRenamed (same.trans needed)]
    rfl

/-- The same fetches are started, in the same order. -/
theorem pendingFetches_rename (dashboard : Dashboard) :
    (dashboard.rename rename).pendingFetches =
      (dashboard.pendingFetches.1.map (·.rename rename),
        dashboard.pendingFetches.2.rename rename) := by
  -- New names change neither which slots there are nor their order.
  have started : (dashboard.slots.rename rename).mapSlots
        (fun slot => (beginFetch dashboard.snapshot slot).2) =
      (dashboard.slots.mapSlots
        (fun slot => (beginFetch dashboard.snapshot slot).2)).rename rename :=
    Slots.mapSlots_rename fun slot => by rw [beginFetch_rename]
  have pending : ((dashboard.slots.rename rename).filterMap
        fun (_, slot) => (beginFetch dashboard.snapshot slot).1) =
      (dashboard.slots.filterMap
        fun (_, slot) => (beginFetch dashboard.snapshot slot).1).map (·.rename rename) := by
    rw [Slots.rename, List.filterMap_map, List.map_filterMap]
    refine List.filterMap_congr fun entry _ => ?_
    simp only [Function.comp_apply, beginFetch_rename]
  exact Prod.ext pending (congrArg (fun slots => { dashboard with slots }) started)

/-- A slot takes an answer under the new name. -/
theorem settle_rename (slot : Slot) (ticket : Ticket) (result : Except FetchFailure Response) :
    (slot.rename rename).settle (ticket.rename rename) result =
      (slot.settle ticket result).rename rename := by
  -- The answer is accepted or discarded by its key, and the name is not compared again.
  by_cases position : slot.tracker.current = some ticket.key
  · have same : (slot.rename rename).tracker.current = some (ticket.rename rename).key := position
    simp only [Slot.settle, Tracker.settle_of_current result position,
      Tracker.settle_of_current result same]
    rfl
  · have same : (slot.rename rename).tracker.current ≠ some (ticket.rename rename).key := position
    simp only [Slot.settle, Tracker.settle_of_superseded result position,
      Tracker.settle_of_superseded result same]
    rfl

/-- So does the dashboard, before anything is reconciled. -/
theorem settled_rename (apart : TellsApart rename dashboard.slots.names)
    (member : ticket.widget ∈ dashboard.slots.names) (result : Except FetchFailure Response) :
    (dashboard.rename rename).settled (ticket.rename rename) result =
      (dashboard.settled ticket result).rename rename := by
  -- Only the slot of the ticket is changed, which is found under its new name.
  have moved : (dashboard.slots.rename rename).modify (rename ticket.widget)
        (·.settle (ticket.rename rename) result) =
      (dashboard.slots.modify ticket.widget (·.settle ticket result)).rename rename :=
    Slots.modify_rename apart member fun slot => settle_rename slot ticket result
  exact congrArg (fun slots => { dashboard with slots }) moved

/-- An answer that can be taken in one way can be taken so under the new name. -/
theorem Completes.renamed {result : Except FetchFailure Response}
    {completion : Completion Reconciliation}
    (completes : dashboard.Completes ticket slot result completion after)
    (apart : TellsApart rename dashboard.slots.names)
    (member : ticket.widget ∈ dashboard.slots.names) :
    (dashboard.rename rename).Completes (ticket.rename rename) (slot.rename rename) result
      completion (after.rename rename) := by
  -- Whether an answer is current, and what it brings, is told by keys and not by names.
  have settled := settled_rename apart member
  cases completes with
  | discarded elsewhere =>
    rw [← settled]
    exact .discarded elsewhere
  | failed position =>
    rw [← settled]
    exact .failed position
  | stored position plain =>
    rw [← settled]
    exact .stored position plain
  | @reconciled data candidates position fresh =>
    have taken : (dashboard.rename rename).Completes (ticket.rename rename) (slot.rename rename)
        (.ok data) _ _ := .reconciled position fresh
    rw [settled, reconcile_rename] at taken
    exact taken

/-- There is one way to take an answer. -/
theorem Completes.unique {result : Except FetchFailure Response} {last : Dashboard}
    {completion other : Completion Reconciliation}
    (first : dashboard.Completes ticket slot result completion after)
    (second : dashboard.Completes ticket slot result other last) :
    completion = other ∧ after = last := by
  -- An answer is for the current key or not, has failed or not, and brings a list or none, so any
  -- two different ways exclude each other.
  cases first with
  | discarded elsewhere =>
    cases second with
    | discarded => exact ⟨rfl, rfl⟩
    | failed position | stored position | reconciled position => exact absurd position elsewhere
  | failed position =>
    cases second with
    | discarded elsewhere => exact absurd position elsewhere
    | failed => exact ⟨rfl, rfl⟩
  | stored position plain =>
    cases second with
    | discarded elsewhere => exact absurd position elsewhere
    | stored => exact ⟨rfl, rfl⟩
    | reconciled _ fresh =>
      rw [plain] at fresh
      cases fresh
  | reconciled position fresh =>
    cases second with
    | discarded elsewhere => exact absurd position elsewhere
    | stored _ plain =>
      rw [plain] at fresh
      cases fresh
    | reconciled _ again =>
      rw [fresh] at again
      cases again
      exact ⟨rfl, rfl⟩

/-- Taking an answer keeps the names. -/
theorem Completes.names {result : Except FetchFailure Response}
    {completion : Completion Reconciliation}
    (completes : dashboard.Completes ticket slot result completion after) :
    after.slots.names = dashboard.slots.names := by
  -- Slots are changed in place.
  cases completes with
  | discarded | failed | stored => rw [settled, Slots.names_modify]
  | reconciled => rw [reconcile_slots, Slots.names_mapSlots, settled, Slots.names_modify]

/-- The names of a coherent dashboard are told apart by a renaming. -/
structure Renamable (rename : String → String) (dashboard : Dashboard) : Prop where
  coherent : dashboard.Coherent
  apart : TellsApart rename dashboard.slots.names

/-- Under the new name, an answer is taken like that under the old one. -/
theorem Renamable.complete (renamable : dashboard.Renamable rename)
    (member : ticket.widget ∈ dashboard.slots.names) (result : Except FetchFailure Response) :
    ∃ completion after, dashboard.complete ticket result = .ok (completion, after) ∧
      (dashboard.rename rename).complete (ticket.rename rename) result =
        .ok (completion, after.rename rename) ∧
      after.Renamable rename ∧ after.slots.names = dashboard.slots.names := by
  -- The same slot is found under the new name, so the completion succeeds there as well.
  obtain ⟨slot, found⟩ : ∃ slot, dashboard.slots.get? ticket.widget = some slot :=
    Option.ne_none_iff_exists'.1 fun absent => Slots.get?_eq_none_iff.1 absent member
  obtain ⟨completion, after, completed, completes⟩ :=
    complete_spec renamable.coherent.distinct found result
  have foundRenamed : (dashboard.rename rename).slots.get? (ticket.rename rename).widget =
      some (slot.rename rename) :=
    (Slots.get?_rename renamable.apart member).trans (congrArg (Option.map _) found)
  have distinct : (dashboard.rename rename).slots.names.Nodup := by
    rw [Dashboard.rename, Slots.names_rename]
    exact renamable.coherent.distinct.map_on fun id member other memberOther =>
      renamable.apart id member other memberOther
  -- There is one outcome under the new name, and the renamed outcome is one.
  obtain ⟨again, last, completedRenamed, completesRenamed⟩ :=
    complete_spec distinct foundRenamed result
  obtain ⟨rfl, rfl⟩ := completesRenamed.unique (completes.renamed renamable.apart member)
  exact ⟨_, after, completed, completedRenamed,
    ⟨renamable.coherent.completes completes, completes.names ▸ renamable.apart⟩, completes.names⟩

/-- So are answers one after the other. -/
theorem Renamable.completeAll (renamable : dashboard.Renamable rename)
    {answers : List (Ticket × Except FetchFailure Response)}
    (known : ∀ answer ∈ answers, answer.1.widget ∈ dashboard.slots.names)
    (summary : RefreshSummary) :
    ∃ done after, completeAll summary dashboard answers = (done, after) ∧
      completeAll summary (dashboard.rename rename)
          (answers.map fun (ticket, result) => (ticket.rename rename, result)) =
        (done, after.rename rename) ∧
      after.Renamable rename ∧ after.slots.names = dashboard.slots.names := by
  -- The induction is on the answers, for any counts so far.
  induction answers generalizing dashboard summary with
  | nil => exact ⟨summary, dashboard, rfl, rfl, renamable, rfl⟩
  | cons answer answers ih =>
    obtain ⟨ticket, result⟩ := answer
    obtain ⟨first, others⟩ := List.forall_mem_cons.1 known
    obtain ⟨completion, next, completed, completedRenamed, renamableNext, names⟩ :=
      renamable.complete first result
    obtain ⟨done, after, all, allRenamed, renamableAfter, namesAfter⟩ :=
      ih renamableNext (names ▸ others) (summary.count completion)
    refine ⟨done, after, ?_, ?_, renamableAfter, namesAfter.trans names⟩
    · rw [Dashboard.completeAll, completed]
      exact all
    · rw [List.map_cons, Dashboard.completeAll, completedRenamed]
      exact allRenamed

/-- Fetches are needed under the new names as under the old ones. -/
theorem needsFetch_rename (dashboard : Dashboard) :
    (dashboard.rename rename).needsFetch = dashboard.needsFetch := by
  -- Each slot needs a fetch as before.
  simp only [Dashboard.rename, Slots.rename, needsFetch, List.any_map]
  rfl

/-- Fetches are started for known widgets. -/
theorem Coherent.mem_names (coherent : dashboard.Coherent) {fetch : PendingFetch}
    (started : fetch ∈ dashboard.pendingFetches.1) :
    fetch.ticket.widget ∈ dashboard.slots.names := by
  -- The fetch was started from the slot of the widget.
  obtain ⟨slot, _, found, _⟩ := Session.asked_of_mem_pendingFetches coherent started
  by_contra unknown
  rw [Slots.get?_eq_none_iff.2 unknown] at found
  cases found

/-- A widget is registered under its new name where it is registered under the old one. -/
theorem register_rename {names : List String} (ordered : KeepsOrder rename names)
    {id : String} {widget : Widget} (member : id ∈ names)
    (known : ∀ name ∈ dashboard.slots.names, name ∈ names)
    (registered : dashboard.register id widget = .ok after) :
    (dashboard.rename rename).register (rename id) widget = .ok (after.rename rename) := by
  -- The new name is as new as the old one, and comes at the same place in the order.
  obtain ⟨valid, fresh, rfl⟩ := register_eq_ok_iff.1 registered
  have freshRenamed : (dashboard.rename rename).slots.get? (rename id) = none := by
    rw [Slots.get?_eq_none_iff, Dashboard.rename, Slots.names_rename]
    intro taken
    obtain ⟨name, present, same⟩ := List.mem_map.1 taken
    obtain rfl := ordered.tellsApart name (known name present) id member same
    exact Slots.get?_eq_none_iff.1 fresh present
  have placed : (dashboard.slots.rename rename).insert (rename id)
        ((Slot.create id widget dashboard.snapshot).rename rename) =
      (dashboard.slots.insert id (.create id widget dashboard.snapshot)).rename rename :=
    Slots.insert_rename fun other present => ordered.lt_iff member (known other present)
  refine register_eq_ok_iff.2 ⟨valid, freshRenamed, ?_⟩
  exact congrArg (fun slots => { dashboard with slots }) placed.symm

section Rounds

variable {σ : Type} (backend : Backend σ)

/-- A round goes the same way under the new names. -/
theorem Renamable.runRound {progress : Progress σ}
    (renamable : progress.dashboard.Renamable rename) :
    ∃ next, Dashboard.runRound backend progress progress.dashboard.pendingFetches.1
        progress.dashboard.pendingFetches.2 = next ∧
      Dashboard.runRound backend (progress.rename rename)
          (progress.dashboard.rename rename).pendingFetches.1
          (progress.dashboard.rename rename).pendingFetches.2 = next.rename rename ∧
      next.dashboard.Renamable rename ∧
      next.dashboard.slots.names = progress.dashboard.slots.names := by
  -- No name is lost or gained in a round.
  have names : progress.dashboard.pendingFetches.2.slots.names =
      progress.dashboard.slots.names := by
    rw [Dashboard.pendingFetches, Slots.names_mapSlots]
  have started : progress.dashboard.pendingFetches.2.Renamable rename :=
    ⟨renamable.coherent.pendingFetches, names ▸ renamable.apart⟩
  have known : ∀ answer ∈ (progress.dashboard.pendingFetches.1.map (·.ticket)).zip
      (backend.executeAll progress.state
        (progress.dashboard.pendingFetches.1.map (·.request))).1,
      answer.1.widget ∈ progress.dashboard.pendingFetches.2.slots.names := by
    intro answer member
    obtain ⟨fetch, pending, same⟩ := List.mem_map.1 (List.of_mem_zip member).1
    rw [names, ← same]
    exact renamable.coherent.mem_names pending
  obtain ⟨done, after, all, allRenamed, renamableAfter, namesAfter⟩ :=
    started.completeAll known
      (progress.summary.countRound progress.dashboard.pendingFetches.1.length)
  refine ⟨_, rfl, ?_⟩
  -- The requests do not carry the names, so they get the same answers.
  have requests : (progress.dashboard.pendingFetches.1.map (·.rename rename)).map (·.request) =
      progress.dashboard.pendingFetches.1.map (·.request) := List.map_map
  have tickets : (progress.dashboard.pendingFetches.1.map (·.rename rename)).map (·.ticket) =
      (progress.dashboard.pendingFetches.1.map (·.ticket)).map (·.rename rename) := by
    rw [List.map_map, List.map_map]
    rfl
  rw [pendingFetches_rename, runRound_eq, runRound_eq, all, requests, tickets, List.zip_map_left,
    List.length_map]
  refine ⟨?_, renamableAfter, namesAfter.trans names⟩
  exact congrArg (fun outcome : RefreshSummary × Dashboard => (⟨outcome.1, (backend.executeAll
    progress.state (progress.dashboard.pendingFetches.1.map (·.request))).2, outcome.2⟩ :
      Progress σ)) allRenamed

/-- So do all rounds of a refresh. -/
theorem Renamable.runRounds (rounds : Nat) {progress : Progress σ}
    (renamable : progress.dashboard.Renamable rename) :
    ∃ after, Dashboard.runRounds backend rounds progress = after ∧
      Dashboard.runRounds backend rounds (progress.rename rename) = after.rename rename ∧
      after.dashboard.Renamable rename ∧
      after.dashboard.slots.names = progress.dashboard.slots.names := by
  -- The induction is on the limit; a round is run under both names or under none.
  induction rounds generalizing progress with
  | zero => exact ⟨progress, rfl, rfl, renamable, rfl⟩
  | succ rounds ih =>
    have needed : (progress.rename rename).dashboard.needsFetch = progress.dashboard.needsFetch :=
      needsFetch_rename _
    rw [runRounds_succ, runRounds_succ, needed]
    split
    · obtain ⟨next, run, runRenamed, renamableNext, names⟩ := renamable.runRound backend
      obtain ⟨after, rest, restRenamed, renamableAfter, namesAfter⟩ := ih renamableNext
      refine ⟨after, run ▸ rest, ?_, renamableAfter, namesAfter.trans names⟩
      rw [← restRenamed, ← runRenamed]
      rfl
    · rename_i unneeded
      have still := pendingFetches_of_not_needsFetch (by simpa using unneeded)
      have stillRenamed := pendingFetches_of_not_needsFetch
        (needed.trans (by simpa using unneeded))
      rw [still, stillRenamed]
      exact ⟨progress, rfl, rfl, renamable, rfl⟩

/-- A refresh does not see the names of widgets, only their order. -/
theorem Renamable.refresh (renamable : dashboard.Renamable rename) (state : σ) :
    ∃ summary later after, dashboard.refresh backend state = (summary, later, after) ∧
      (dashboard.rename rename).refresh backend state = (summary, later, after.rename rename) ∧
      after.Renamable rename ∧ after.slots.names = dashboard.slots.names := by
  -- The rounds are the same, and what is said at the end does not depend on names.
  have begun : (⟨.empty, state, dashboard⟩ : Progress σ).dashboard.Renamable rename := renamable
  obtain ⟨after, run, runRenamed, renamableAfter, names⟩ :=
    begun.runRounds backend dashboard.config.maxRefreshRounds
  refine ⟨{ after.summary with exhausted := after.dashboard.needsFetch }, after.state,
    after.dashboard, ?_, ?_, renamableAfter, names⟩
  · rw [Dashboard.refresh, run]
  · have same : (dashboard.rename rename).refresh backend state =
        ({ (after.rename rename).summary with
            exhausted := (after.rename rename).dashboard.needsFetch },
          (after.rename rename).state, (after.rename rename).dashboard) := by
      rw [← runRenamed]
      rfl
    have needed : (after.rename rename).dashboard.needsFetch = after.dashboard.needsFetch :=
      needsFetch_rename _
    rw [same, needed]
    rfl

end Rounds

end Dashboard

end Renamed

end Viewpoint
