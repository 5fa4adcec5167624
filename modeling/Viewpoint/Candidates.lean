import Viewpoint.Dimension

/-! The candidate values that are known for each dimension. -/

namespace Viewpoint

/-- The lists of candidates that have been loaded; a list that was not loaded is missing. -/
structure Candidates where
  lists : ByDimension (Option (List String))
  deriving DecidableEq, Repr

namespace Candidates

/-- No list is loaded. -/
def none : Candidates :=
  ⟨.const Option.none⟩

/-- The loaded list of a dimension. -/
def get (candidates : Candidates) (d : Dimension) : Option (List String) :=
  candidates.lists.get d

/-- Loads the list of a dimension. -/
def set (candidates : Candidates) (d : Dimension) (values : List String) : Candidates :=
  ⟨candidates.lists.set d (some values)⟩

/-- The list of one dimension alone. -/
def only (candidates : Candidates) (d : Dimension) : Candidates :=
  ⟨.ofFn fun other => if other = d then candidates.get d else Option.none⟩

/-- Takes over the lists that have been loaded newly. -/
def merge (candidates newer : Candidates) : Candidates :=
  ⟨.ofFn fun d => (newer.get d).or (candidates.get d)⟩

end Candidates

end Viewpoint
