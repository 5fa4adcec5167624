import Viewpoint.Proofs.Accounting
import Viewpoint.Proofs.Convergence
import Viewpoint.Proofs.Facets

/-! What a refresh makes of a dashboard when it follows the lists that it asks for. -/

namespace Viewpoint

namespace Dashboard

variable {fixtures : Fixtures} {dashboard origin now after : Dashboard} {before slot : Slot}
  {id : String} {d : Dimension}

/-- Some widget of a kind was answered last for a key, or was not answered yet. -/
def Answered (dashboard : Dashboard) (widget : Widget) (key : Option QueryKey) : Prop :=
  ∃ id slot, dashboard.slots.get? id = some slot ∧ slot.widget = widget ∧
    slot.tracker.completed = key

/--
The dimensions whose lists a refresh has to ask for: a selector was not answered for its key, or a
list that is asked for changes a filter that the key depends on.
-/
inductive CallsFor (fixtures : Fixtures) (dashboard : Dashboard) : Dimension → Prop where
  | due {d : Dimension} {key : Option QueryKey} (answered : dashboard.Answered (.options d) key)
      (outdated : key ≠ some ((Widget.options d).key dashboard.snapshot)) :
      CallsFor fixtures dashboard d
  | moved {d other : Dimension} {key : Option QueryKey}
      (called : CallsFor fixtures dashboard other)
      (moves : isUnsettled fixtures dashboard other = true)
      (apart : other ≠ d) (answered : dashboard.Answered (.options d) key) :
      CallsFor fixtures dashboard d

/-- The facet of a dimension after its prepared list was used. -/
def followed (fixtures : Fixtures) (dashboard : Dashboard) (d : Dimension) : Facet :=
  (dashboard.facet d).use (dashboard.frame.mandatory.get d) ((fixtures.listFor d).get d)

/-- A dimension is unsettled when its prepared list changes its filter. -/
theorem isUnsettled_iff : isUnsettled fixtures dashboard d = true ↔
    (dashboard.followed fixtures d).value ≠ (dashboard.facet d).value :=
  -- What is due under the list is the value of the facet that has followed it.
  bne_iff_ne

/-- Every widget is at its key, and no fetch is out. -/
structure Poised (dashboard : Dashboard) : Prop where
  coherent : dashboard.Coherent
  rests : dashboard.Rests

/-- When nothing is out, a widget needs a fetch unless it was answered last for its key. -/
theorem Poised.needsFetch_iff (poised : dashboard.Poised)
    (found : dashboard.slots.get? id = some slot) : slot.tracker.needsFetch = true ↔
      slot.tracker.completed ≠ some (slot.widget.key dashboard.snapshot) := by
  -- No fetch that is out can spare the widget another one.
  rw [Tracker.needsFetch_iff (poised.coherent.observed found)]
  simp [Tracker.keysOut, poised.rests found]

/-- A widget that needs none was answered last for its key. -/
theorem Poised.completed_eq (poised : dashboard.Poised)
    (found : dashboard.slots.get? id = some slot) (unneeded : slot.tracker.needsFetch = false) :
    slot.tracker.completed = some (slot.widget.key dashboard.snapshot) := by
  -- Otherwise the widget would need a fetch.
  by_contra outdated
  rw [(poised.needsFetch_iff found).2 outdated] at unneeded
  cases unneeded

/-- When no widget needs a fetch, each was answered last for its key. -/
theorem Poised.completed_of_finished (poised : dashboard.Poised)
    (finished : dashboard.needsFetch = false) (found : dashboard.slots.get? id = some slot) :
    slot.tracker.completed = some (slot.widget.key dashboard.snapshot) :=
  -- Each of the widgets needs none.
  poised.completed_eq found
    ((needsFetch_eq_false_iff poised.coherent.distinct).1 finished found)

/-- A slot that starts a fetch gives it the next number. -/
theorem nextSeq_beginFetch {snapshot : Snapshot} (needed : slot.tracker.needsFetch = true) :
    (beginFetch snapshot slot).2.tracker.nextSeq = slot.tracker.nextSeq + 1 := by
  -- The number of the started fetch is the one that was next.
  obtain ⟨key, position⟩ := Tracker.current_of_needsFetch needed
  rw [beginFetch_of_needsFetch position needed]
  rfl

/--
What has become of a slot since a refresh began: it needed no fetch and has started none so far, or
it has started one.
-/
inductive Treats (fixtures : Fixtures) (origin now : Dashboard) (before : Slot) : Slot → Prop where
  | spared (unneeded : before.tracker.needsFetch = false) :
      Treats fixtures origin now before (before.observe now.snapshot)
  | fetched {slot : Slot} (widget : slot.widget = before.widget)
      (started : before.tracker.nextSeq < slot.tracker.nextSeq)
      (called : ∀ d, slot.widget = .options d → origin.CallsFor fixtures d) :
      Treats fixtures origin now before slot

/-- A slot keeps its widget. -/
theorem Treats.widget (treats : Treats fixtures origin now before slot) :
    slot.widget = before.widget := by
  -- Neither way to be treated replaces the widget.
  cases treats with
  | spared => rfl
  | fetched widget => exact widget

/--
How far a refresh has come that began at a dashboard: only dimensions whose lists it has to ask for
have followed them, and of all selectors only those of such dimensions have started fetches.
-/
structure Underway (fixtures : Fixtures) (origin now : Dashboard) : Prop where
  frame : now.frame = origin.frame
  facets : ∀ d, now.facet d = origin.facet d ∨
    origin.CallsFor fixtures d ∧ now.facet d = origin.followed fixtures d
  slots : ∀ {id : String} {before : Slot}, origin.slots.get? id = some before →
    ∃ slot, now.slots.get? id = some slot ∧ Treats fixtures origin now before slot
  known : ∀ {id : String} {slot : Slot}, now.slots.get? id = some slot →
    ∃ before, origin.slots.get? id = some before

/-- A slot that is found goes back to one that was there when the refresh began. -/
theorem Underway.of_found (underway : Underway fixtures origin now)
    (found : now.slots.get? id = some slot) :
    ∃ before, origin.slots.get? id = some before ∧ Treats fixtures origin now before slot := by
  -- No slot is added during a refresh, and each one that was there is treated in one of the ways.
  obtain ⟨before, foundBefore⟩ := underway.known found
  obtain ⟨same, foundSame, treats⟩ := underway.slots foundBefore
  cases found.symm.trans foundSame
  exact ⟨before, foundBefore, treats⟩

/-- A refresh goes on when the slots are changed in place, each as it may be treated. -/
theorem Underway.of_map {change : String → Slot → Slot} (underway : Underway fixtures origin now)
    (frame : after.frame = now.frame)
    (facets : ∀ d, after.facet d = origin.facet d ∨
      origin.CallsFor fixtures d ∧ after.facet d = origin.followed fixtures d)
    (changed : ∀ id, after.slots.get? id = (now.slots.get? id).map (change id))
    (treated : ∀ {id : String} {before slot : Slot}, origin.slots.get? id = some before →
      now.slots.get? id = some slot → Treats fixtures origin now before slot →
        Treats fixtures origin after before (change id slot)) :
    Underway fixtures origin after where
  -- Which slots there are is not touched, so each part can be shown for one slot at a time.
  frame := frame.trans underway.frame
  facets := facets
  slots foundBefore := by
    obtain ⟨slot, found, treats⟩ := underway.slots foundBefore
    exact ⟨_, by rw [changed, found, Option.map_some], treated foundBefore found treats⟩
  known foundAfter := by
    rw [changed] at foundAfter
    obtain ⟨slot, found, _⟩ := Option.map_eq_some_iff.1 foundAfter
    exact underway.known found

section Begin

/-- A slot may start the fetch that it needs if the list of its dimension has to be asked for. -/
theorem treats_beginFetch (needed : slot.tracker.needsFetch = true)
    (widget : slot.widget = before.widget)
    (numbered : before.tracker.nextSeq ≤ slot.tracker.nextSeq)
    (called : ∀ d, before.widget = .options d → origin.CallsFor fixtures d) :
    Treats fixtures origin now before (beginFetch now.snapshot slot).2 := by
  -- To start a fetch is one of the ways to be treated, and it moves the number on.
  have same := (beginFetch_unmoved slot now.snapshot).1.trans widget
  refine .fetched same ?_ fun d loads => called d (same ▸ loads)
  rw [nextSeq_beginFetch needed]
  exact Nat.lt_succ_of_le numbered

/-- A refresh begins by starting the fetches that are needed. -/
theorem Poised.underway (poised : origin.Poised) :
    Underway fixtures origin origin.pendingFetches.2 where
  -- A slot that needs no fetch is spared, and each of the others starts one that was due.
  frame := rfl
  facets d := .inl rfl
  slots := by
    intro id before found
    refine ⟨_, by rw [get?_pendingFetches, found, Option.map_some], ?_⟩
    cases needed : before.tracker.needsFetch with
    | false =>
      have spared : Treats fixtures origin origin.pendingFetches.2 before
          (before.observe origin.snapshot) := .spared needed
      rw [Slot.observe_eq_self (poised.coherent.observed found)] at spared
      rwa [beginFetch_of_not_needsFetch needed]
    | true =>
      refine treats_beginFetch needed rfl (Nat.le_refl _) fun d loads => ?_
      have outdated := (poised.needsFetch_iff found).1 needed
      rw [loads] at outdated
      exact .due ⟨id, before, found, loads, rfl⟩ outdated
  known found := by
    rw [get?_pendingFetches] at found
    obtain ⟨before, foundBefore, _⟩ := Option.map_eq_some_iff.1 found
    exact ⟨before, foundBefore⟩

/-- The list of a spared selector has to be asked for once its key is not the answered one. -/
theorem Underway.calledFor (underway : Underway fixtures origin now) (poised : origin.Poised)
    (foundBefore : origin.slots.get? id = some before)
    (unneeded : before.tracker.needsFetch = false) (loads : before.widget = .options d)
    (outdated : before.tracker.completed ≠ some (before.widget.key now.snapshot)) :
    origin.CallsFor fixtures d := by
  -- The key was the answered one at first, so the filter of another dimension has moved.
  rw [poised.completed_eq foundBefore unneeded, loads, ne_eq, Option.some.injEq,
    Widget.key_eq_iff] at outdated
  simp only [Widget.ReadsAlike] at outdated
  push Not at outdated
  obtain ⟨other, apart, changed⟩ := outdated
  rcases underway.facets other with same | ⟨called, followed⟩
  · exact absurd (congrArg Facet.value same).symm changed
  · refine .moved called (isUnsettled_iff.2 ?_) apart ⟨id, before, foundBefore, loads, rfl⟩
    rw [← followed]
    exact Ne.symm changed

/-- Each round starts fetches only for what the refresh has to ask for. -/
theorem Underway.pendingFetches (underway : Underway fixtures origin now)
    (poised : origin.Poised) (poisedNow : now.Poised) :
    Underway fixtures origin now.pendingFetches.2 := by
  -- A slot that was spared until now needs a fetch only because a list has moved its key.
  refine underway.of_map rfl underway.facets now.get?_pendingFetches ?_
  intro id before slot foundBefore found treats
  cases needed : slot.tracker.needsFetch with
  | false =>
    rw [beginFetch_of_not_needsFetch needed]
    cases treats with
    | spared unneeded => exact .spared unneeded
    | fetched widget started called => exact .fetched widget started called
  | true =>
    have outdated := (poisedNow.needsFetch_iff found).1 needed
    cases treats with
    | spared unneeded =>
      exact treats_beginFetch needed rfl (Nat.le_refl _)
        fun d loads => underway.calledFor poised foundBefore unneeded loads outdated
    | fetched widget started called =>
      exact treats_beginFetch needed widget (Nat.le_of_lt started)
        fun d loads => called d (widget.trans loads)

end Begin

section Complete

variable {shown : Snapshot} {fetch : PendingFetch} {rest : List PendingFetch}
  {completion : Completion Reconciliation}

/-- A slot whose fetch is out has started it since the refresh began. -/
theorem Treats.of_out (treats : Treats fixtures origin now before slot)
    (quiet : before.tracker.inFlight = []) (out : slot.tracker.inFlight ≠ []) :
    slot.widget = before.widget ∧ before.tracker.nextSeq < slot.tracker.nextSeq ∧
      ∀ d, slot.widget = .options d → origin.CallsFor fixtures d := by
  -- A slot that was spared has nothing out, as before.
  cases treats with
  | spared unneeded => exact absurd quiet out
  | fetched widget started called => exact ⟨widget, started, called⟩

/-- The list that an answer brings is used for its dimension, where it may have been used before. -/
theorem Underway.facet_completes (underway : Underway fixtures origin now)
    (called : ∀ d, slot.widget = .options d → origin.CallsFor fixtures d)
    (completes : now.Completes fetch.ticket slot
      (fixtures.response (slot.widget.request shown)) completion after) :
    after.frame = now.frame ∧ ∀ d, after.facet d = origin.facet d ∨
      origin.CallsFor fixtures d ∧ after.facet d = origin.followed fixtures d := by
  -- Only an answer that is reconciled can change a facet, and then it is the one of its dimension.
  generalize answered : fixtures.response (slot.widget.request shown) = result at completes
  cases completes with
  | discarded | failed | stored => exact ⟨rfl, underway.facets⟩
  | @reconciled data candidates _ fresh =>
    obtain ⟨own, loads, rfl⟩ := Fixtures.fresh_response answered fresh
    refine ⟨frame_reconcile, fun d => ?_⟩
    have frame : (now.settled fetch.ticket (.ok data)).frame = origin.frame := underway.frame
    rw [facet_reconcile, frame]
    by_cases same : d = own
    · -- A list that was used before changes nothing the second time.
      subst same
      refine .inr ⟨called d loads, ?_⟩
      rcases underway.facets d with unused | ⟨_, used⟩
      · exact congrArg (Facet.use · _ _) unused
      · exact (congrArg (Facet.use · _ _) used).trans Facet.use_use
    · rw [Fixtures.get_listFor_of_ne same, Facet.use_none]
      exact underway.facets d

/-- Taking the answer to the next fetch of a round goes on with the refresh. -/
theorem Underway.completes (underway : Underway fixtures origin now) (poised : origin.Poised)
    (awaits : Awaits shown (fetch :: rest) now)
    (found : now.slots.get? fetch.ticket.widget = some slot)
    (completes : now.Completes fetch.ticket slot
      (fixtures.response (slot.widget.request shown)) completion after) :
    Underway fixtures origin after := by
  -- The fetch of the widget is out, so its slot is not one of those that were spared.
  have out : slot.tracker.inFlight ≠ [] := by
    obtain ⟨present, foundPresent, inFlight, _⟩ := awaits.out fetch List.mem_cons_self
    cases found.symm.trans foundPresent
    rw [inFlight]
    exact List.cons_ne_nil _ _
  obtain ⟨first, foundFirst, treatsOwn⟩ := underway.of_found found
  obtain ⟨widget, started, called⟩ := treatsOwn.of_out (poised.rests foundFirst) out
  -- The own slot has been fetched by now, and the other slots are treated as they were.
  obtain ⟨frame, facets⟩ := underway.facet_completes called completes
  refine underway.of_map frame facets (completes.get? awaits.coherent) ?_
  intro id before present foundBefore foundPresent treats
  by_cases own : id = fetch.ticket.widget
  · subst own
    cases found.symm.trans foundPresent
    cases foundFirst.symm.trans foundBefore
    have kept : (slot.settle fetch.ticket _).tracker.nextSeq = slot.tracker.nextSeq :=
      Tracker.settle_nextSeq (fixtures.response (slot.widget.request shown))
    rw [if_pos rfl]
    exact .fetched widget (kept ▸ started) called
  · rw [if_neg own]
    cases treats with
    | spared unneeded => exact .spared unneeded
    | fetched widget started called => exact .fetched widget started called

end Complete

/-- A round goes on with the refresh and leaves nothing out. -/
theorem runRound_underway (progress : Progress (List Endpoint)) (poised : origin.Poised)
    (poisedNow : progress.dashboard.Poised)
    (underway : Underway fixtures origin progress.dashboard.pendingFetches.2) :
    ∃ next, runRound fixtures.backend progress progress.dashboard.pendingFetches.1
        progress.dashboard.pendingFetches.2 = next ∧
      next.dashboard.Poised ∧ Underway fixtures origin next.dashboard := by
  have rests : progress.dashboard.Rests := poisedNow.rests
  -- Each completion goes on with the refresh, and after the last one nothing is awaited.
  obtain ⟨done, after, all, _, ended, further⟩ :=
    (rests.awaits poisedNow.coherent).completeAll_keeps
      (fun _ now => Underway fixtures origin now)
      (fun awaits underway found _ completes => underway.completes poised awaits found completes)
      underway (progress.summary.countRound progress.dashboard.pendingFetches.1.length)
  refine ⟨_, rfl, ?_⟩
  rw [runRound_prepared, all]
  exact ⟨⟨ended.coherent, fun found => ended.idle found List.not_mem_nil⟩, further⟩

/-- A refresh that ends with no fetch needed has gone on until then, and leaves nothing out. -/
theorem runRounds_underway (poised : origin.Poised) (rounds : Nat)
    (progress : Progress (List Endpoint)) (poisedNow : progress.dashboard.Poised)
    (underway : Underway fixtures origin progress.dashboard.pendingFetches.2)
    (finished : (runRounds fixtures.backend rounds progress).dashboard.needsFetch = false) :
    (runRounds fixtures.backend rounds progress).dashboard.Poised ∧
      Underway fixtures origin (runRounds fixtures.backend rounds progress).dashboard := by
  -- The induction is on the limit; a round is run only while some widget needs a fetch.
  induction rounds generalizing progress with
  | zero =>
    have still := pendingFetches_of_not_needsFetch finished
    exact ⟨poisedNow, still ▸ underway⟩
  | succ rounds ih =>
    rw [runRounds_succ] at finished ⊢
    split at finished
    · rename_i needed
      rw [if_pos needed]
      obtain ⟨next, run, poisedNext, further⟩ :=
        runRound_underway progress poised poisedNow underway
      rw [run] at finished ⊢
      exact ih next poisedNext (further.pendingFetches poised poisedNext) finished
    · rename_i unneeded
      rw [if_neg unneeded]
      have still := pendingFetches_of_not_needsFetch (by simpa using unneeded)
      rw [still] at underway ⊢
      exact ⟨poisedNow, underway⟩

/-- A selector of a dimension has started a fetch from one dashboard to another. -/
def Asks (before after : Dashboard) (d : Dimension) : Prop :=
  ∃ entry ∈ before.slots, entry.2.widget = .options d ∧
    ∃ slot ∈ after.slots.get? entry.1, entry.2.tracker.nextSeq < slot.tracker.nextSeq

/--
A refresh has heeded the lists that it asked for: none of them would change anything if it was
loaded once more.
-/
def Heeds (fixtures : Fixtures) (before after : Dashboard) : Prop :=
  ∀ d, Asks before after d → (after.reconcile (fixtures.listFor d)).2 = after

instance (before after : Dashboard) (d : Dimension) : Decidable (Asks before after d) :=
  inferInstanceAs (Decidable (∃ entry ∈ before.slots, _ ∧ ∃ slot ∈ after.slots.get? entry.1, _))

instance (fixtures : Fixtures) (before after : Dashboard) :
    Decidable (Heeds fixtures before after) :=
  decidable_of_iff (∀ d ∈ Dimension.all, Asks before after d →
      (after.reconcile (fixtures.listFor d)).2 = after)
    ⟨fun heeds d => heeds d d.mem_all, fun heeds d _ => heeds d⟩

/-- A dimension whose list was asked for and heeded has followed it. -/
theorem Heeds.followed (heeds : Heeds fixtures origin after)
    (underway : Underway fixtures origin after) (asks : Asks origin after d) :
    after.facet d = origin.followed fixtures d := by
  -- The list changes nothing any more, whether it was used before or not.
  have still : after.facet d =
      (after.facet d).use (origin.frame.mandatory.get d) ((fixtures.listFor d).get d) := by
    rw [← underway.frame, ← facet_reconcile, heeds d asks]
  rcases underway.facets d with unused | ⟨_, used⟩
  · rw [still, unused]
    rfl
  · exact used

/-- A selector whose fetch was started asks for the list of its dimension. -/
theorem Poised.asks (poised : origin.Poised) (foundBefore : origin.slots.get? id = some before)
    (loads : before.widget = .options d) (found : after.slots.get? id = some slot)
    (started : before.tracker.nextSeq < slot.tracker.nextSeq) : Asks origin after d :=
  -- Such a selector is what asking is about.
  ⟨(id, before), (Slots.mem_iff_get? poised.coherent.distinct).2 foundBefore, loads, slot, found,
    started⟩

/-- A refresh that finishes and heeds its lists has asked for all that it had to ask for. -/
theorem CallsFor.asks (called : origin.CallsFor fixtures d) (poised : origin.Poised)
    (poisedAfter : after.Poised) (underway : Underway fixtures origin after)
    (finished : after.needsFetch = false) (heeds : Heeds fixtures origin after) :
    Asks origin after d := by
  -- The induction is on why the list has to be asked for; a selector that was spared has no reason.
  induction called with
  | due answered outdated =>
    obtain ⟨id, before, foundBefore, loads, rfl⟩ := answered
    obtain ⟨slot, found, treats⟩ := underway.slots foundBefore
    cases treats with
    | fetched widget started called => exact poised.asks foundBefore loads found started
    | spared unneeded =>
      have answered := poised.completed_eq foundBefore unneeded
      rw [loads] at answered
      exact absurd answered outdated
  | @moved d other key called moves apart answered ih =>
    obtain ⟨id, before, foundBefore, loads, rfl⟩ := answered
    obtain ⟨slot, found, treats⟩ := underway.slots foundBefore
    cases treats with
    | fetched widget started called => exact poised.asks foundBefore loads found started
    | spared unneeded =>
      -- It is at the key of its answer again, so the filter of the other dimension is as before.
      have first := poised.completed_eq foundBefore unneeded
      have last := poisedAfter.completed_of_finished finished found
      have same : (Widget.options d).key origin.snapshot =
          (Widget.options d).key after.snapshot := by
        rw [← loads]
        exact Option.some.inj (first.symm.trans last)
      have value := (Widget.options d).key_eq_iff.1 same other apart
      have followed := congrArg Facet.value (heeds.followed underway ih)
      exact absurd (followed.symm.trans value.symm) (isUnsettled_iff.1 moves)

/-- When a refresh finishes, each kind of widget is answered for the new snapshot. -/
theorem Underway.answered_iff (underway : Underway fixtures origin after)
    (poisedAfter : after.Poised) (finished : after.needsFetch = false) (widget : Widget)
    (key : Option QueryKey) : after.Answered widget key ↔
      (∃ before, origin.Answered widget before) ∧ key = some (widget.key after.snapshot) := by
  constructor
  -- Slots neither come nor go, so those of a kind are the ones of that kind at first.
  · rintro ⟨id, slot, found, rfl, rfl⟩
    obtain ⟨before, foundBefore, treats⟩ := underway.of_found found
    exact ⟨⟨_, id, before, foundBefore, treats.widget.symm, rfl⟩,
      poisedAfter.completed_of_finished finished found⟩
  · rintro ⟨⟨_, id, before, foundBefore, rfl, _⟩, rfl⟩
    obtain ⟨slot, found, treats⟩ := underway.slots foundBefore
    refine ⟨id, slot, found, treats.widget, ?_⟩
    rw [poisedAfter.completed_of_finished finished found, treats.widget]

/-- What a refresh has made of a dashboard when it heeded the lists that it asked for. -/
structure Outcome (fixtures : Fixtures) (origin after : Dashboard) : Prop where
  poised : after.Poised
  frame : after.frame = origin.frame
  followed : ∀ d, origin.CallsFor fixtures d → after.facet d = origin.followed fixtures d
  spared : ∀ d, ¬origin.CallsFor fixtures d → after.facet d = origin.facet d
  answered : ∀ widget key, after.Answered widget key ↔
    (∃ before, origin.Answered widget before) ∧ key = some (widget.key after.snapshot)

/--
A refresh that is not exhausted and heeds the lists that it asks for brings just the dimensions
whose lists it had to ask for in line with them, and answers every widget.
-/
theorem refresh_outcome {calls : List Endpoint} (poised : origin.Poised)
    (finished : (origin.refresh fixtures.backend calls).1.exhausted = false)
    (heeds : Heeds fixtures origin (origin.refresh fixtures.backend calls).2.2) :
    Outcome fixtures origin (origin.refresh fixtures.backend calls).2.2 := by
  obtain ⟨poisedAfter, underway⟩ := runRounds_underway poised origin.config.maxRefreshRounds
    ⟨.empty, calls, origin⟩ poised poised.underway finished
  refine ⟨poisedAfter, underway.frame, fun d called => ?_, fun d uncalled => ?_,
    underway.answered_iff poisedAfter finished⟩
  · exact heeds.followed underway (called.asks poised poisedAfter underway finished heeds)
  · -- Nothing else could have moved the facet.
    rcases underway.facets d with same | ⟨called, _⟩
    · exact same
    · exact absurd called uncalled

end Dashboard

end Viewpoint
