import Viewpoint.Dimension

/-! The filters of a dashboard: at most one value for each dimension. -/

namespace Viewpoint

/-- The value that each dimension is filtered by, if any. -/
structure Filters where
  values : ByDimension (Option String)
  deriving DecidableEq, Repr

namespace Filters

/-- No filter is set. -/
def none : Filters :=
  ⟨.const Option.none⟩

/-- The value that a dimension is filtered by. -/
def get (filters : Filters) (d : Dimension) : Option String :=
  filters.values.get d

/-- A dimension is filtered. -/
def isSet (filters : Filters) (d : Dimension) : Bool :=
  (filters.get d).isSome

/-- A value to filter by; the empty text means no value. -/
def proper : Option String → Option String
  | some value => if value.isEmpty then Option.none else some value
  | Option.none => Option.none

/-- Filters a dimension by a value; the empty text, like no value, clears the filter. -/
def set (filters : Filters) (d : Dimension) (value : Option String) : Filters :=
  ⟨filters.values.set d (proper value)⟩

/-- Clears the filter of a dimension. -/
def clear (filters : Filters) (d : Dimension) : Filters :=
  filters.set d Option.none

/-- The dimensions with their values, in the order of dimensions. -/
def entries (filters : Filters) : List (Dimension × Option String) :=
  Dimension.all.map fun d => (d, filters.get d)

/-- The filtered dimensions with their values, in the order of dimensions. -/
def active (filters : Filters) : List (Dimension × String) :=
  Dimension.all.filterMap fun d => (filters.get d).map fun value => (d, value)

/-- The filtered dimensions but for one. -/
def activeExcluding (filters : Filters) (excluded : Dimension) : List (Dimension × String) :=
  filters.active.filter fun (d, _) => d != excluded

/-- The number of filtered dimensions. -/
def count (filters : Filters) : Nat :=
  filters.active.length

/-- The value to show for a dimension: its filter, once the loaded candidates confirm it. -/
def displayValue (filters : Filters) (d : Dimension) (candidates : Option (List String)) :
    Option String :=
  (filters.get d).filter fun value => (candidates.getD []).contains value

/-- After a filter is set, its dimension has that value and the others keep theirs. -/
theorem get_set (filters : Filters) (d other : Dimension) (value : Option String) :
    (filters.set d value).get other = if other = d then proper value else filters.get other :=
  -- Filters are a table, in which an empty value is stored as none.
  ByDimension.get_set _ _ _ _

/-- Filters with equal values are equal. -/
@[ext] theorem ext_get {a b : Filters} (same : ∀ d, a.get d = b.get d) : a = b := by
  -- Filters have no parts but the table of their values.
  cases a
  cases b
  simp only [mk.injEq]
  exact ByDimension.ext_get same

end Filters

end Viewpoint
