import Viewpoint.Proofs.Facets
import Viewpoint.Proofs.Presets

/-! A time range that carries the name of a preset is the one that the preset had when chosen. -/

namespace Viewpoint

/-- The event chooses a time range. -/
def Event.choosesRange : Event → Bool
  | .setTimeRange _ _ | .applyPreset _ => true
  | _ => false

namespace Dashboard

variable {dashboard : Dashboard} {event : Event} {proposal : Snapshot × Brush}

/-- An event that chooses no time range proposes the one that is shown. -/
theorem range_of_proposes (other : event.choosesRange = false)
    (proposed : dashboard.proposes event = .ok proposal) :
    proposal.1.range = dashboard.snapshot.range := by
  -- All other events replace other parts of the snapshot.
  cases event with
  | setTimeRange | applyPreset => cases other
  | drillDown | drillNext | drillUp | setZoom | brush =>
    obtain ⟨_, _, rfl⟩ := map_eq_ok.1 proposed
    rfl
  | setFilter | clearFilter | clearAllFilters | resetDrill | clearZoom | clearBrush
    | optionsLoaded =>
    cases proposed
    rfl
  | applyBrush =>
    -- At most the zoom becomes what the brush has selected.
    obtain rfl := Except.ok.inj proposed
    split <;> rfl

end Dashboard

namespace Operation

/-- The instant that an operation moves the clock to, if it does that. -/
def clock? : Operation → Option Instant
  | setClock now => some now
  | _ => none

end Operation

namespace Session

variable {session : Session} {operations past : List Operation} {event : Event}

/-- The operation chooses a time range, and is not refused. -/
def choosesRange (session : Session) : Operation → Bool
  | .dispatch event => event.choosesRange && (session.dashboard.dispatch event).isOk
  | _ => false

/-- No operation of a list chooses a time range. -/
abbrev KeepsRange : Session → List Operation → Prop :=
  AllAdmitted step fun session operation => session.choosesRange operation = false

/-- What the clock reads when some operations have been done. -/
def readingAfter (session : Session) (operations : List Operation) : Instant :=
  operations.foldl (fun reading operation => operation.clock?.getD reading)
    session.dashboard.store.now

/-- The last operation that chooses a time range is the event that comes after the given ones. -/
def LastChoice (session : Session) (operations past : List Operation) (event : Event) : Prop :=
  ∃ rest, operations = past ++ .dispatch event :: rest ∧
    (past.foldl step session).choosesRange (.dispatch event) = true ∧
    ((past.foldl step session).step (.dispatch event)).KeepsRange rest

/-- The clock reads what it was moved to last. -/
theorem now_step (session : Session) (operation : Operation) :
    (session.step operation).dashboard.store.now =
      operation.clock?.getD session.dashboard.store.now := by
  -- The reading of the clock is in the frame, which tells what an operation does to it.
  rcases session.frame_step_cases operation with
    ⟨now, rfl, frame⟩ | ⟨event, proposal, rfl, -, frame⟩ | ⟨still, -, frame⟩
  · exact congrArg Frame.now frame
  · exact congrArg Frame.now frame
  · have none : operation.clock? = none := by
      cases operation with
      | setClock now => exact absurd rfl (still now)
      | register | dispatch | reconcile | startPending | complete => rfl
    rw [none]
    exact congrArg Frame.now frame

/-- An operation that chooses no time range leaves it. -/
theorem range_step {operation : Operation} (other : session.choosesRange operation = false) :
    (session.step operation).snapshot.range = session.snapshot.range := by
  -- The range is in the frame, and an event that is accepted proposes to leave it.
  rcases session.frame_step_cases operation with
    ⟨now, rfl, frame⟩ | ⟨event, proposal, rfl, proposed, frame⟩ | ⟨-, -, frame⟩
  · exact congrArg Frame.range frame
  · have accepted : (session.dashboard.dispatch event).isOk = true := by
      rw [Dashboard.dispatch_eq, proposed]
      rfl
    have other : event.choosesRange = false := by simpa [choosesRange, accepted] using other
    exact (congrArg Frame.range frame).trans (Dashboard.range_of_proposes other proposed)
  · exact congrArg Frame.range frame

/-- Operations that choose no time range leave it. -/
theorem KeepsRange.range (kept : session.KeepsRange operations) :
    (operations.foldl step session).snapshot.range = session.snapshot.range := by
  -- The induction is on the operations.
  induction operations generalizing session with
  | nil => rfl
  | cons operation rest ih => exact (ih kept.2).trans (range_step kept.1)

/-- Either no operation of a list chooses a time range, or one of them is the last to do so. -/
theorem keepsRange_or_lastChoice (session : Session) (operations : List Operation) :
    session.KeepsRange operations ∨ ∃ past event, session.LastChoice operations past event := by
  -- Induction on the operations: the first of them counts only if none of the others does.
  induction operations generalizing session with
  | nil => exact .inl trivial
  | cons operation rest ih =>
    rcases ih (session.step operation) with kept | ⟨past, event, later, rfl, chosen, kept⟩
    · cases chosen : session.choosesRange operation with
      | false => exact .inl ⟨chosen, kept⟩
      | true =>
        -- Only events choose time ranges.
        cases operation with
        | dispatch event => exact .inr ⟨[], event, rest, rfl, chosen, kept⟩
        | setClock | register | reconcile | startPending | complete => cases chosen
    · exact .inr ⟨operation :: past, event, later, rfl, chosen, kept⟩

/-- The time range is the one that the last choice proposed. -/
theorem LastChoice.range (last : session.LastChoice operations past event) :
    event.choosesRange = true ∧ ∃ proposal,
      (past.foldl step session).dashboard.proposes event = .ok proposal ∧
        (operations.foldl step session).snapshot.range = proposal.1.range := by
  obtain ⟨rest, rfl, chosen, kept⟩ := last
  obtain ⟨chooses, accepted⟩ := Bool.and_eq_true_iff.1 chosen
  -- What comes after the choice leaves the range, so one step is left to look at.
  rw [List.foldl_append, List.foldl_cons, kept.range]
  generalize past.foldl step session = now at accepted ⊢
  rcases now.frame_step_cases (.dispatch event) with
    ⟨_, ⟨⟩, -⟩ | ⟨event, proposal, ⟨⟩, proposed, frame⟩ | ⟨-, refused, -⟩
  · exact ⟨chooses, proposal, proposed, congrArg Frame.range frame⟩
  · cases dispatched : now.dashboard.dispatch event with
    | error rejection => simp [dispatched, Except.isOk, Except.toBool] at accepted
    | ok after => exact absurd dispatched (refused event after rfl)

/-- No operations change the table of presets. -/
theorem presets_foldl (session : Session) (operations : List Operation) :
    (operations.foldl step session).dashboard.store.presets = session.dashboard.store.presets := by
  -- The table is one of the settings, which no operation changes.
  induction operations generalizing session with
  | nil => rfl
  | cons operation rest ih => exact (ih _).trans (session.settings_step operation).2.1

/-- The first of some operations moves the clock for the others. -/
theorem readingAfter_cons (session : Session) (operation : Operation) (rest : List Operation) :
    session.readingAfter (operation :: rest) = (session.step operation).readingAfter rest := by
  -- The clock reads on from where the first operation has moved it.
  rw [readingAfter, readingAfter, now_step]
  rfl

/-- The dashboard goes by the reading of the clock. -/
theorem now_foldl (session : Session) (operations : List Operation) :
    (operations.foldl step session).dashboard.store.now = session.readingAfter operations := by
  -- The induction is on the operations.
  induction operations generalizing session with
  | nil => rfl
  | cons operation rest ih => rw [List.foldl_cons, ih, readingAfter_cons]

/-- A clock that is never moved to a leap second reads none, if it read none before. -/
theorem readingAfter_plain (began : session.dashboard.store.now.inLeapSecond = false)
    (moved : ∀ now, .setClock now ∈ operations → now.inLeapSecond = false) :
    (session.readingAfter operations).inLeapSecond = false := by
  -- The induction is on the operations, each of which moves the clock to such an instant or not at
  -- all.
  induction operations generalizing session with
  | nil => exact began
  | cons operation rest ih =>
    rw [readingAfter_cons]
    refine ih ?_ fun now member => moved now (List.mem_cons_of_mem _ member)
    rw [now_step]
    cases operation with
    | setClock now => exact moved now List.mem_cons_self
    | register | dispatch | reconcile | startPending | complete => exact began

/--
The last choice of a time range, after the given operations, was that of a preset: the default
preset at the start, or one that was applied.
-/
def LastPreset (config : Config) (session : Session) (operations past : List Operation)
    (id : PresetId) : Prop :=
  (session.KeepsRange operations ∧ past = [] ∧ id = config.defaultPreset) ∨
    session.LastChoice operations past (.applyPreset id)

/-- What was done before the last choice of a preset is part of all that was done. -/
theorem LastPreset.past_subset {config : Config} {id : PresetId}
    (last : LastPreset config session operations past id) : past ⊆ operations := by
  -- Either nothing was done before, or it is what comes before the choice.
  rcases last with ⟨-, rfl, -⟩ | ⟨rest, rfl, -⟩
  · exact List.nil_subset _
  · exact List.subset_append_left _ _

/-- The range of the preset that was chosen last is the one that it had at that moment. -/
theorem LastPreset.resolves {config : Config} (started : IsStart config session) {id : PresetId}
    (last : LastPreset config session operations past id) :
    Preset.resolve config.presets (session.readingAfter past) id =
      .ok (operations.foldl step session).snapshot.range := by
  obtain ⟨now, dashboard, created, rfl⟩ := started
  obtain ⟨-, opening, resolved, rfl⟩ := Dashboard.create_eq_ok created
  rcases last with ⟨kept, rfl, rfl⟩ | last
  · -- Since the start nothing has touched the range of the default preset.
    rw [kept.range]
    exact resolved
  · obtain ⟨-, proposal, proposed, range⟩ := last.range
    obtain ⟨chosen, resolved, rfl⟩ := map_eq_ok.1 proposed
    rw [presets_foldl, now_foldl] at resolved
    rw [range]
    exact resolved

/-- A range that was chosen last by its bounds has these bounds, and no name. -/
theorem LastChoice.bounds {start finish : Instant}
    (last : session.LastChoice operations past (.setTimeRange start finish)) :
    (operations.foldl step session).snapshot.range = ⟨start, finish, none⟩ := by
  -- The range comes out of the check of its bounds, which takes them as they are.
  obtain ⟨-, proposal, proposed, range⟩ := last.range
  obtain ⟨chosen, accepted, rfl⟩ := map_eq_ok.1 proposed
  rw [range, Snapshot.withRange]
  rw [TimeRange.between] at accepted
  split at accepted
  · exact (Except.ok.inj accepted).symm
  · cases accepted

/--
A time range carries the name of a preset exactly if that preset was chosen last, at the start or by
being applied. Then the table lists it, and the range ended at what the clock read at that moment,
with exactly the width that is configured. A range that was set by its bounds carries no name.
-/
theorem preset_labels_range {config : Config} (started : IsStart config session)
    (began : session.dashboard.store.now.inLeapSecond = false)
    (moved : ∀ now, .setClock now ∈ operations → now.inLeapSecond = false) :
    (∀ id, (operations.foldl step session).snapshot.range.preset = some id ↔
      ∃ past, LastPreset config session operations past id) ∧
    (∀ past id, LastPreset config session operations past id →
      ∃ preset ∈ config.presets, preset.id = id ∧
        (operations.foldl step session).snapshot.range.finish = session.readingAfter past ∧
        (operations.foldl step session).snapshot.range.width =
          preset.seconds * nanosPerSecond) ∧
    ∀ past start finish, session.LastChoice operations past (.setTimeRange start finish) →
      (operations.foldl step session).snapshot.range = ⟨start, finish, none⟩ := by
  -- What a preset made of the range follows from what the clock read, which is no leap second.
  have tells : ∀ {past id}, LastPreset config session operations past id →
      (operations.foldl step session).snapshot.range.preset = some id ∧
        ∃ preset ∈ config.presets, preset.id = id ∧
          (operations.foldl step session).snapshot.range.finish = session.readingAfter past ∧
          (operations.foldl step session).snapshot.range.width =
            preset.seconds * nanosPerSecond := by
    intro past id last
    have plain := readingAfter_plain began fun now member => moved now (last.past_subset member)
    exact Preset.of_resolve_eq_ok plain (last.resolves started)
  refine ⟨fun id => ⟨fun carries => ?_, fun ⟨past, last⟩ => (tells last).1⟩,
    fun past id last => (tells last).2, fun past start finish last => last.bounds⟩
  -- Whatever was chosen last, its name is the one that is carried.
  have only : ∀ {past other}, LastPreset config session operations past other →
      ∃ past, LastPreset config session operations past id := by
    intro past other last
    obtain rfl := Option.some.inj ((tells last).1.symm.trans carries)
    exact ⟨past, last⟩
  rcases session.keepsRange_or_lastChoice operations with kept | ⟨past, event, last⟩
  · exact only (.inl ⟨kept, rfl, rfl⟩)
  · cases event with
    | setTimeRange start finish =>
      rw [last.bounds] at carries
      cases carries
    | applyPreset other => exact only (.inr last)
    | setFilter | clearFilter | clearAllFilters | drillDown | drillNext | drillUp | resetDrill
      | setZoom | clearZoom | brush | applyBrush | clearBrush | optionsLoaded =>
      cases last.range.1

/-- Half a second into the year 2025. -/
def newYear : Instant :=
  ⟨1735689600, 500000000, by decide, by decide⟩

/-- The last week is chosen at the new year, after which the clock is set back to noon. -/
def chosenAtNewYear : List Operation :=
  [.dispatch (.setTimeRange .epoch noon), .setClock newYear, .dispatch (.applyPreset .last7Days),
    .setClock noon, .dispatch (.setFilter .service (some "pay"))]

/-- The label says what was chosen at the new year, whatever the clock reads since. -/
theorem preset_labels_range_newYear : IsStart .standard fresh ∧
    fresh.dashboard.store.now.inLeapSecond = false ∧
    (∀ now, .setClock now ∈ chosenAtNewYear → now.inLeapSecond = false) ∧
    ∃ after, after = chosenAtNewYear.foldl step fresh ∧
      after.snapshot.range.preset = some .last7Days ∧ after.snapshot.range.finish = newYear ∧
      after.snapshot.range.width = 604800 * nanosPerSecond ∧ after.dashboard.store.now = noon := by
  have moved : ∀ now, .setClock now ∈ chosenAtNewYear → now.inLeapSecond = false := by
    intro now member
    simp only [chosenAtNewYear, List.mem_cons, reduceCtorEq, Operation.setClock.injEq, false_or,
      List.not_mem_nil, or_false] at member
    rcases member with rfl | rfl <;> decide
  -- The seven days were chosen when the clock read the new year, and only the clock was moved then.
  have last : LastPreset .standard fresh chosenAtNewYear (chosenAtNewYear.take 2) .last7Days :=
    .inr ⟨chosenAtNewYear.drop 3, rfl, by decide, by decide⟩
  have labels := preset_labels_range fresh_isStart (by decide) moved
  obtain ⟨preset, listed, named, finish, width⟩ := labels.2.1 _ _ last
  have week : ∀ preset ∈ Config.standard.presets, preset.id = .last7Days →
      preset.seconds = 604800 := by decide
  refine ⟨fresh_isStart, by decide, moved, _, rfl, (labels.1 _).2 ⟨_, last⟩, finish, ?_, ?_⟩
  · rw [width, week preset listed named]
    rfl
  · rw [now_foldl]
    rfl

end Session

end Viewpoint
