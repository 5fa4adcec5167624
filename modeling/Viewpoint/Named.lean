/-! Finite types whose values go by a name. -/

namespace Viewpoint

/-- A type with finitely many values, each of which is the one that its name finds. -/
class Named (α : Type) where
  all : List α
  name : α → String
  find_name : ∀ value, all.find? (fun other => name other == name value) = some value

/-- The value that goes by a name. -/
def Named.find? {α : Type} [Named α] (name : String) : Option α :=
  (Named.all : List α).find? fun value => Named.name value == name

/-- A value is found by its own name. -/
@[simp] theorem Named.find?_name {α : Type} [Named α] (value : α) :
    Named.find? (Named.name value) = some value :=
  -- Each instance proves this of its own list of values.
  Named.find_name value

end Viewpoint
