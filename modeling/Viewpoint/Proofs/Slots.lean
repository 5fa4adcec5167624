import Mathlib.Data.List.Nodup
import Viewpoint.Dashboard

/-! Reading slots after they were changed, by the names of their widgets. -/

namespace Viewpoint.Slots

/-- The names of the widgets, in their order. -/
def names (slots : Slots) : List String :=
  slots.map Prod.fst

variable {slots : Slots} {id other : String} {slot : Slot} {change : Slot → Slot}

/-- The first slot is looked at before the rest. -/
theorem get?_cons {rest : Slots} :
    get? ((other, slot) :: rest) id = if id = other then some slot else get? rest id := by
  -- The slots are looked up as pairs, whose names are compared one by one.
  by_cases found : id = other
  · simp [get?, found]
  · simp [get?, List.lookup_cons, beq_eq_false_iff_ne.2 found, found]

/-- A changed list of slots holds the changed slot of each widget. -/
@[simp] theorem get?_mapSlots : (slots.mapSlots change).get? id = (slots.get? id).map change := by
  -- A change keeps each name, so the look-up stops at the same place as before.
  induction slots with
  | nil => rfl
  | cons head rest ih =>
    obtain ⟨name, present⟩ := head
    change get? ((name, change present) :: mapSlots rest change) id = _
    rw [get?_cons, get?_cons, ih]
    split <;> rfl

/-- Changing the slot of one widget leaves the slots of the others. -/
theorem get?_modify :
    (slots.modify id change).get? other =
      if other = id then (slots.get? other).map change else slots.get? other := by
  -- Slots are changed in place, and only those under the given name.
  induction slots with
  | nil => simp [modify, get?]
  | cons head rest ih =>
    obtain ⟨name, present⟩ := head
    have step : modify ((name, present) :: rest) id change =
        (name, if name = id then change present else present) :: modify rest id change := by
      simp only [modify, List.map_cons]
      split <;> rfl
    rw [step, get?_cons, get?_cons, ih]
    by_cases found : other = name
    · subst found
      by_cases named : other = id <;> simp [named]
    · simp [found]

/-- A slot that is changed twice is changed once, by both changes. -/
theorem modify_modify (slots : Slots) (id : String) (first second : Slot → Slot) :
    (slots.modify id first).modify id second =
      slots.modify id fun slot => second (first slot) := by
  -- Slots of other names are left by both.
  simp only [modify, List.map_map]
  refine List.map_congr_left fun entry _ => ?_
  by_cases own : entry.1 = id <;> simp [own]

/-- A slot that is put in under a new name is found there, and the others where they were. -/
theorem get?_insert (fresh : slots.get? id = none) :
    (slots.insert id slot).get? other = if other = id then some slot else slots.get? other := by
  -- The new slot is put before the first greater name, which is not its own.
  induction slots with
  | nil => simp only [insert, get?_cons]
  | cons head rest ih =>
    obtain ⟨name, present⟩ := head
    rw [get?_cons] at fresh
    by_cases taken : id = name
    · simp [taken] at fresh
    · simp only [taken, if_false] at fresh
      simp only [insert]
      split
      · rw [get?_cons]
      · rw [get?_cons, get?_cons, ih fresh]
        -- The slot that is passed over has another name than the new one.
        by_cases found : other = name
        · have apart : name ≠ id := Ne.symm taken
          simp [found, apart]
        · simp [found]

/-- Changing slots keeps the names. -/
@[simp] theorem names_mapSlots : (slots.mapSlots change).names = slots.names := by
  -- Each slot stays under its name.
  simp [names, mapSlots]

/-- Changing one slot keeps the names. -/
@[simp] theorem names_modify : (slots.modify id change).names = slots.names := by
  -- The name of an entry is the same in both branches of the change.
  simp only [names, modify, List.map_map]
  refine List.map_congr_left fun entry _ => ?_
  simp only [Function.comp_apply]
  split <;> rfl

/-- A slot that is put in adds its name alone. -/
theorem names_insert_perm : (slots.insert id slot).names.Perm (id :: slots.names) := by
  -- The new name moves past the smaller ones.
  induction slots with
  | nil => rfl
  | cons head rest ih =>
    obtain ⟨name, present⟩ := head
    simp only [insert]
    split
    · rfl
    · exact (ih.cons name).trans (List.Perm.swap id name _)

/-- A name without a slot is not among the names. -/
theorem get?_eq_none_iff : slots.get? id = none ↔ id ∉ slots.names := by
  -- The look-up fails at the end of the list, after it was compared with every name.
  induction slots with
  | nil => simp [get?, names]
  | cons head rest ih =>
    obtain ⟨name, present⟩ := head
    rw [get?_cons]
    by_cases found : id = name
    · simp [found, names]
    · simpa [found, names] using ih

/-- Names stay distinct when a slot is put in under a new one. -/
theorem nodup_insert (distinct : slots.names.Nodup) (fresh : slots.get? id = none) :
    (slots.insert id slot).names.Nodup :=
  -- Up to their order, the names are those before and the new one.
  names_insert_perm.nodup_iff.2 (List.nodup_cons.2 ⟨get?_eq_none_iff.1 fresh, distinct⟩)

/-- With distinct names, the slots that are found are those in the list. -/
theorem mem_iff_get? (distinct : slots.names.Nodup) :
    (id, slot) ∈ slots ↔ slots.get? id = some slot := by
  -- Only a name that stands twice could hide a slot from the look-up.
  induction slots with
  | nil => simp [get?]
  | cons head rest ih =>
    obtain ⟨name, present⟩ := head
    obtain ⟨fresh, distinct⟩ := List.nodup_cons.1 distinct
    rw [get?_cons, List.mem_cons, ih distinct]
    by_cases found : id = name
    · -- No later slot has the name of the first one.
      have absent : get? rest name = none := get?_eq_none_iff.2 fresh
      simp [found, absent, eq_comm]
    · simp [found]

/-- With distinct names, only what happens to the slot that is found matters. -/
theorem modify_congr (first second : Slot → Slot) (distinct : slots.names.Nodup)
    (found : slots.get? id = some slot) (same : first slot = second slot) :
    slots.modify id first = slots.modify id second := by
  -- Only one entry has the name, and on its slot both changes agree.
  refine List.map_congr_left fun entry member => ?_
  obtain ⟨name, present⟩ := entry
  by_cases named : name = id
  · subst named
    have only : some present = some slot := by rw [← found, (mem_iff_get? distinct).1 member]
    simp only [Option.some.inj only, same]
  · simp [named]

end Viewpoint.Slots
