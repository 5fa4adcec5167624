import Viewpoint.Candidates
import Viewpoint.Filters

/-! Bringing filters in line with the candidates that are loaded. -/

namespace Viewpoint

/-- Why a filter is changed. -/
inductive ChangeReason where
  | stale
  | defaulted
  deriving DecidableEq, Repr

namespace ChangeReason

/-- The name of a reason. -/
def name : ChangeReason → String
  | stale => "stale"
  | defaulted => "defaulted"

instance : Named ChangeReason where
  all := [stale, defaulted]
  name := name
  find_name r := by cases r <;> rfl

end ChangeReason

/-- A change of the filter of a dimension. -/
structure Change where
  dimension : Dimension
  old : Option String
  new : Option String
  reason : ChangeReason
  deriving DecidableEq, Repr

/-- Changes in the order of their dimensions. -/
abbrev Reconciliation := List Change

namespace Change

/-- A change still applies while the filter has the value that it starts from. -/
def applies (change : Change) (filters : Filters) : Bool :=
  -- The filter may have been changed since the list was asked for.
  filters.get change.dimension == change.old

/-- Makes a change that still applies. -/
def apply (change : Change) (filters : Filters) : Filters :=
  if change.applies filters then filters.set change.dimension change.new else filters

end Change

namespace Reconciliation

/-- Makes the changes that still apply, one after the other. -/
def apply (changes : Reconciliation) (filters : Filters) : Filters :=
  changes.foldl (fun filters change => change.apply filters) filters

/-- The number of changes that alter a filter when they are made one after the other. -/
def countApplied : Reconciliation → Filters → Nat
  | [], _ => 0
  | change :: changes, filters =>
    let next := change.apply filters
    (if next.get change.dimension = filters.get change.dimension then 0 else 1)
      + countApplied changes next

end Reconciliation

/--
Decides which filters have to change.

A mandatory dimension is armed until a list of candidates was used for it; only then does it get a
value that nobody has chosen.
-/
structure Reconciler where
  mandatory : ByDimension Bool
  armed : ByDimension Bool
  deriving DecidableEq, Repr

namespace Reconciler

/-- A reconciler with the given mandatory dimensions, all of them armed. -/
def ofMandatory (dimensions : List Dimension) : Reconciler :=
  let mandatory := ByDimension.ofFn fun d => dimensions.contains d
  ⟨mandatory, mandatory⟩

/-- The reconciler that is used unless another one is configured. -/
def standard : Reconciler :=
  ofMandatory [.metricName]

/-- A dimension is mandatory. -/
def isMandatory (reconciler : Reconciler) (d : Dimension) : Bool :=
  reconciler.mandatory.get d

/-- A dimension is armed. -/
def isArmed (reconciler : Reconciler) (d : Dimension) : Bool :=
  reconciler.armed.get d

/-- Arms all mandatory dimensions. -/
def rearmAll (reconciler : Reconciler) : Reconciler :=
  { reconciler with armed := reconciler.mandatory }

/-- The change of a filter for which a list with the given first candidate is loaded. -/
def changeFor (mandatory armed : Bool) (d : Dimension) (first : String)
    (listed : String → Bool) : Option String → Option Change
  | some current =>
    if listed current then none
    -- A stale value of a mandatory dimension gives way to the default at once.
    else if mandatory then some ⟨d, some current, some first, .defaulted⟩
    else some ⟨d, some current, none, .stale⟩
  | none => if mandatory && armed then some ⟨d, none, some first, .defaulted⟩ else none

/-- The change that a loaded list asks for; a list that is missing or empty asks for none. -/
def changeOf (reconciler : Reconciler) (filters : Filters) (candidates : Candidates)
    (d : Dimension) : Option Change :=
  match candidates.get d with
  -- A list that was not loaded says nothing, and an empty one cannot give a default.
  | none => none
  | some [] => none
  | some (first :: rest) =>
    changeFor (reconciler.isMandatory d) (reconciler.isArmed d) d first
      (fun value => (first :: rest).contains value) (filters.get d)

/--
Whether a dimension is armed after its list was used.

An empty list arms a mandatory dimension, and a list with candidates disarms it.
-/
def armedAfter (reconciler : Reconciler) (candidates : Candidates) (d : Dimension) : Bool :=
  match candidates.get d with
  | none => reconciler.isArmed d
  | some [] => reconciler.isMandatory d || reconciler.isArmed d
  | some (_ :: _) => false

/-- The changes that loaded lists ask for, and the reconciler after they were used. -/
def reconcile (reconciler : Reconciler) (filters : Filters) (candidates : Candidates) :
    Reconciliation × Reconciler :=
  (Dimension.all.filterMap (reconciler.changeOf filters candidates),
    { reconciler with armed := .ofFn (reconciler.armedAfter candidates) })

end Reconciler

end Viewpoint
