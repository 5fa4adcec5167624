import Mathlib.Data.List.Basic
import Viewpoint.Filters

/-! The list of active filters holds exactly what the filters hold. -/

namespace Viewpoint.Filters

/-- No filter has the empty text as its value. -/
def Filled (filters : Filters) : Prop :=
  ∀ d, filters.get d ≠ some ""

/-- Without filters there is no value. -/
theorem filled_none : none.Filled := by
  -- No dimension has a value that could be empty.
  simp [Filled, none, get]

/-- A value that is proper is not the empty text. -/
theorem proper_ne_empty (value : Option String) : proper value ≠ some "" := by
  -- The empty text is the one value that is not kept.
  cases value with
  | none => simp [proper]
  | some text =>
    simp only [proper]
    split
    · simp
    · rename_i filled
      rintro same
      cases same
      exact filled rfl

/-- A value that is not the empty text is proper. -/
theorem proper_of_filled {value : Option String} (filled : value ≠ some "") :
    proper value = value := by
  -- Only the empty text is replaced.
  cases value with
  | none => rfl
  | some text =>
    have inked : text.isEmpty = false := by simpa using filled
    simp [proper, inked]

/-- A value is kept with a text exactly if it is that text, and not the empty one. -/
theorem proper_eq_some_iff {value : Option String} {text : String} :
    proper value = some text ↔ value = some text ∧ text ≠ "" := by
  constructor
  · intro kept
    have filled : text ≠ "" := by
      rintro rfl
      exact proper_ne_empty value kept
    -- The empty text would not have been kept.
    have inked : value ≠ some "" := by
      rintro rfl
      cases kept
    exact ⟨(proper_of_filled inked).symm.trans kept, filled⟩
  · rintro ⟨rfl, filled⟩
    exact proper_of_filled (by simpa using filled)

/-- Setting a filter twice to the same value is setting it once. -/
theorem set_set (filters : Filters) (d : Dimension) (value : Option String) :
    (filters.set d value).set d value = filters.set d value := by
  -- The second value replaces the first one, and the other dimensions are not touched.
  ext1 other
  simp only [get_set]
  split <;> rfl

/-- Setting a filter never leaves it with the empty text. -/
theorem Filled.set {filters : Filters} (filled : filters.Filled) (d : Dimension)
    (value : Option String) : (filters.set d value).Filled := by
  -- An empty value would be stored as none.
  intro other
  rw [get_set]
  split
  · exact proper_ne_empty value
  · exact filled other

/-- A dimension is listed with a value when it is filtered by that value. -/
theorem mem_active {filters : Filters} {d : Dimension} {value : String} :
    (d, value) ∈ filters.active ↔ filters.get d = some value := by
  -- Every dimension is visited, and a filtered one contributes its own pair alone.
  simp only [active, List.mem_filterMap, Option.map_eq_some_iff, Prod.mk.injEq]
  constructor
  · rintro ⟨visited, _, found, filtered, rfl, rfl⟩
    exact filtered
  · intro filtered
    exact ⟨d, d.mem_all, value, filtered, rfl, rfl⟩

/-- The list without one dimension holds the filters of all others. -/
theorem mem_activeExcluding {filters : Filters} {d excluded : Dimension} {value : String} :
    (d, value) ∈ filters.activeExcluding excluded ↔ d ≠ excluded ∧ filters.get d = some value := by
  -- The list is filtered by dimension once more, after the pairs were collected.
  simp only [activeExcluding, List.mem_filter, mem_active, bne_iff_ne]
  exact and_comm

/-- The filters can be recovered from their list. -/
theorem active_inj {a b : Filters} : a.active = b.active ↔ a = b := by
  constructor
  · -- Membership in the list reads off the value of every dimension.
    intro listed
    ext d value
    rw [← mem_active, listed, mem_active]
  · rintro rfl
    rfl

/-- The list without one dimension tells filters apart by the other dimensions only. -/
theorem activeExcluding_eq_iff {a b : Filters} {excluded : Dimension} :
    a.activeExcluding excluded = b.activeExcluding excluded ↔
      ∀ d, d ≠ excluded → a.get d = b.get d := by
  constructor
  · -- The pair of another dimension survives in both lists or in neither.
    intro listed d other
    ext value
    have pair : (d, value) ∈ a.activeExcluding excluded ↔
        (d, value) ∈ b.activeExcluding excluded := by rw [listed]
    simpa [mem_activeExcluding, other] using pair
  · -- Visited dimension by dimension, both lists receive the same pair or none.
    intro same
    simp only [activeExcluding, active, List.filter_filterMap]
    refine List.filterMap_congr fun d _ => ?_
    by_cases other : d = excluded
    · subst other
      cases a.get d <;> cases b.get d <;> simp [Option.filter]
    · rw [same d other]

/-- A list of filters splits into the filter of one dimension and the list of the others. -/
theorem active_eq_iff_split {a b : Filters} (d : Dimension) :
    a.active = b.active ↔ a.get d = b.get d ∧ a.activeExcluding d = b.activeExcluding d := by
  -- Either side says that all dimensions agree, the right one names a dimension apart.
  rw [active_inj, activeExcluding_eq_iff]
  constructor
  · rintro rfl
    exact ⟨rfl, fun _ _ => rfl⟩
  · rintro ⟨own, others⟩
    ext1 other
    by_cases same : other = d
    · rw [same, own]
    · exact others other same

end Viewpoint.Filters
