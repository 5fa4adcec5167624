import Viewpoint.Proofs.Outcome

/-! Dashboards that are alike: they show the same, whatever their widgets are called. -/

namespace Viewpoint

namespace Dashboard

variable {fixtures : Fixtures} {dashboard after a b : Dashboard} {d : Dimension} {widget : Widget}
  {id : String} {key : Option QueryKey}

/-- Two dashboards show the same, and their widgets are of the same kinds and equally answered. -/
structure Alike (a b : Dashboard) : Prop where
  frame : a.frame = b.frame
  facet : a.facet = b.facet
  answered : ∀ widget key, a.Answered widget key ↔ b.Answered widget key

/-- To be alike goes both ways. -/
theorem Alike.symm (alike : Alike a b) : Alike b a :=
  -- All that has to agree agrees the other way round.
  ⟨alike.frame.symm, alike.facet.symm, fun widget key => (alike.answered widget key).symm⟩

/-- Dashboards that are alike have the same filters. -/
theorem Alike.filters (alike : Alike a b) : a.snapshot.filters = b.snapshot.filters := by
  -- A filter is the value of the facet of its dimension.
  ext1 d
  exact congrArg Facet.value (congrFun alike.facet d)

/-- Prepared lists would be followed in the same way. -/
theorem Alike.followed (alike : Alike a b) (d : Dimension) :
    a.followed fixtures d = b.followed fixtures d := by
  -- What a list would do is told by the facet and by which dimensions are mandatory.
  rw [Dashboard.followed, Dashboard.followed, alike.frame, alike.facet]

/-- The same lists have to be asked for on dashboards that are alike. -/
theorem Alike.callsFor (alike : Alike a b) (called : a.CallsFor fixtures d) :
    b.CallsFor fixtures d := by
  -- What a dimension is called for by is named by kinds of widgets, not by widgets.
  induction called with
  | due answered outdated =>
    rw [key_of_look alike.frame alike.facet] at outdated
    exact .due ((alike.answered _ _).1 answered) outdated
  | moved called moves apart answered ih =>
    refine .moved ih ?_ apart ((alike.answered _ _).1 answered)
    rw [isUnsettled_iff] at moves ⊢
    rwa [← alike.followed, ← alike.facet]

/-- Moving the clock in the same way leaves dashboards alike. -/
theorem Alike.setClock (alike : Alike a b) (now : Instant) :
    Alike (a.setClock now) (b.setClock now) where
  -- The reading of the clock is a part of the frame alone.
  frame := congrArg (fun frame => { frame with now }) alike.frame
  facet := alike.facet
  answered := alike.answered

/-- To notice a snapshot answers no widget. -/
theorem answered_of_observe
    (noticed : after.slots = dashboard.slots.mapSlots (·.observe after.snapshot)) :
    after.Answered widget key ↔ dashboard.Answered widget key := by
  -- Slots keep their widgets and the keys that were answered last.
  simp only [Answered, noticed, Slots.get?_mapSlots, Option.map_eq_some_iff]
  constructor
  · rintro ⟨id, _, ⟨slot, found, rfl⟩, kind, completed⟩
    exact ⟨id, slot, found, kind, completed⟩
  · rintro ⟨id, slot, found, kind, completed⟩
    exact ⟨id, _, ⟨slot, found, rfl⟩, kind, completed⟩

/-- An event is refused by both of two dashboards that are alike, or leaves them alike. -/
theorem Alike.dispatch (alike : Alike a b) (event : Event) :
    (∃ rejection, a.dispatch event = .error rejection ∧ b.dispatch event = .error rejection) ∨
      ∃ afterA afterB, a.dispatch event = .ok afterA ∧ b.dispatch event = .ok afterB ∧
        Alike afterA afterB := by
  -- What is shown after the event is the same, so either both are refusals or neither is.
  have same := look_dispatch_of_look alike.frame alike.facet event
  cases outcomeA : a.dispatch event with
  | error rejection =>
    rw [outcomeA] at same
    cases outcomeB : b.dispatch event with
    | error other =>
      rw [outcomeB] at same
      cases same
      exact .inl ⟨rejection, rfl, rfl⟩
    | ok after =>
      rw [outcomeB] at same
      cases same
  | ok afterA =>
    rw [outcomeA] at same
    obtain ⟨afterB, outcomeB, look⟩ := map_eq_ok.1 same.symm
    obtain ⟨frame, facet⟩ := Prod.mk.inj look
    refine .inr ⟨afterA, afterB, rfl, outcomeB, frame.symm, facet.symm, fun widget key => ?_⟩
    rw [answered_of_observe (dispatch_slots outcomeA), alike.answered,
      answered_of_observe (dispatch_slots outcomeB)]

/-- Refreshes that heed the lists that they ask for leave dashboards alike. -/
theorem Alike.of_outcome {afterA afterB : Dashboard} (alike : Alike a b)
    (outcomeA : Outcome fixtures a afterA) (outcomeB : Outcome fixtures b afterB) :
    Alike afterA afterB := by
  -- Which lists were called for, and how they were followed, is the same for both.
  have frame : afterA.frame = afterB.frame := by
    rw [outcomeA.frame, outcomeB.frame, alike.frame]
  have facet : afterA.facet = afterB.facet := by
    funext d
    by_cases called : a.CallsFor fixtures d
    · rw [outcomeA.followed d called, outcomeB.followed d (alike.callsFor called), alike.followed]
    · have uncalled : ¬b.CallsFor fixtures d := fun other => called (alike.symm.callsFor other)
      rw [outcomeA.spared d called, outcomeB.spared d uncalled, alike.facet]
  refine ⟨frame, facet, fun widget key => ?_⟩
  rw [outcomeA.answered, outcomeB.answered, key_of_look frame facet]
  simp only [alike.answered]

/-- Without widgets there is nothing to fetch. -/
theorem poised_of_slots_eq_nil (empty : dashboard.slots = []) : dashboard.Poised where
  -- No slot is there to have a fetch out.
  coherent := coherent_of_slots_eq_nil empty
  rests found := by simp [empty, Slots.get?] at found

/-- Moving the clock fetches nothing. -/
theorem Poised.setClock (poised : dashboard.Poised) (now : Instant) :
    (dashboard.setClock now).Poised :=
  -- The slots and the snapshot stay as they are.
  ⟨⟨poised.coherent.distinct, poised.coherent.named, poised.coherent.observed⟩, poised.rests⟩

/-- Nor does an event. -/
theorem Poised.dispatch {event : Event} (poised : dashboard.Poised)
    (dispatched : dashboard.dispatch event = .ok after) : after.Poised where
  -- An event lets each slot notice the snapshot, which starts no fetch.
  coherent := poised.coherent.dispatch dispatched
  rests := by
    intro id slot found
    rw [dispatch_slots dispatched, Slots.get?_mapSlots] at found
    obtain ⟨before, foundBefore, rfl⟩ := Option.map_eq_some_iff.1 found
    have quiet := poised.rests foundBefore
    exact quiet

/-- Nor does a new widget. -/
theorem Poised.register (poised : dashboard.Poised)
    (registered : dashboard.register id widget = .ok after) : after.Poised where
  -- The slot is new or one of those before, and neither has a fetch out.
  coherent := poised.coherent.register registered
  rests := by
    obtain ⟨fresh, rfl⟩ := register_eq_ok registered
    intro name slot found
    rw [Slots.get?_insert fresh] at found
    split at found
    · cases found
      rfl
    · exact poised.rests found

/-- A new widget is not answered yet, and the others are as before. -/
theorem answered_register (registered : dashboard.register id widget = .ok after)
    (kind : Widget) : after.Answered kind key ↔
      kind = widget ∧ key = none ∨ dashboard.Answered kind key := by
  -- Either the new slot is meant, which has completed no key, or one of the others.
  obtain ⟨fresh, rfl⟩ := register_eq_ok registered
  simp only [Answered, Slots.get?_insert fresh]
  constructor
  · rintro ⟨name, slot, found, rfl, rfl⟩
    split at found
    · cases found
      exact .inl ⟨rfl, rfl⟩
    · exact .inr ⟨name, slot, found, rfl, rfl⟩
  · rintro (⟨rfl, rfl⟩ | ⟨name, slot, found, kind, completed⟩)
    · exact ⟨id, _, if_pos rfl, rfl, rfl⟩
    · -- The new slot replaces none, since its name was free.
      have apart : name ≠ id := by
        rintro rfl
        rw [fresh] at found
        cases found
      exact ⟨name, slot, (if_neg apart).trans found, kind, completed⟩

/-- A widget that can be registered on one of two dashboards can be so under any new name. -/
theorem Alike.register (alike : Alike a b) {other : String}
    (registered : a.register id widget = .ok after) (fresh : other ∉ b.slots.names) :
    ∃ afterB, b.register other widget = .ok afterB ∧ Alike after afterB := by
  -- Validity does not depend on the name, which only has to be new.
  have absent : b.slots.get? other = none := Slots.get?_eq_none_iff.2 fresh
  have registeredB : b.register other widget = .ok { b with
      slots := b.slots.insert other (.create other widget b.snapshot) } :=
    register_eq_ok_iff.2 ⟨(register_eq_ok_iff.1 registered).1, absent, rfl⟩
  refine ⟨_, registeredB, ?_, ?_, fun kind key => ?_⟩
  · obtain ⟨_, rfl⟩ := register_eq_ok registered
    exact alike.frame
  · obtain ⟨_, rfl⟩ := register_eq_ok registered
    exact alike.facet
  · rw [answered_register registered, answered_register registeredB, alike.answered]

end Dashboard

end Viewpoint
