import Viewpoint.Named

/-! The dimensions that a dashboard is filtered by, and tables with one entry for each. -/

namespace Viewpoint

/-- A dimension of the data that filters and drill-downs select values of. -/
inductive Dimension where
  | service
  | endpoint
  | region
  | environment
  | metricName
  | status
  deriving DecidableEq, Repr

namespace Dimension

/-- All dimensions, in the order that lists of them keep. -/
def all : List Dimension :=
  [service, endpoint, region, environment, metricName, status]

/-- The name of a dimension in requests and files. -/
def name : Dimension → String
  | service => "service"
  | endpoint => "endpoint"
  | region => "region"
  | environment => "environment"
  | metricName => "metric_name"
  | status => "status"

/-- The name of a dimension for people. -/
def label : Dimension → String
  | service => "Service"
  | endpoint => "Endpoint"
  | region => "Region"
  | environment => "Environment"
  | metricName => "Metric"
  | status => "Status"

/-- Results can be grouped by every dimension but the status. -/
def isGroupable (d : Dimension) : Bool :=
  d != .status

/-- Every dimension is in the list of all dimensions. -/
theorem mem_all (d : Dimension) : d ∈ all := by
  -- The list names each of the six dimensions.
  cases d <;> decide

instance : Named Dimension where
  all := all
  name := name
  find_name d := by cases d <;> rfl

end Dimension

/-- A table with one entry for each dimension. -/
structure ByDimension (α : Type) where
  service : α
  endpoint : α
  region : α
  environment : α
  metricName : α
  status : α
  deriving DecidableEq, Repr

namespace ByDimension

variable {α β : Type}

/-- The entry for a dimension. -/
def get (table : ByDimension α) : Dimension → α
  | .service => table.service
  | .endpoint => table.endpoint
  | .region => table.region
  | .environment => table.environment
  | .metricName => table.metricName
  | .status => table.status

/-- The table with the given entries. -/
def ofFn (entry : Dimension → α) : ByDimension α :=
  ⟨entry .service, entry .endpoint, entry .region, entry .environment, entry .metricName,
    entry .status⟩

/-- The table with the same entry for all dimensions. -/
def const (entry : α) : ByDimension α :=
  ofFn fun _ => entry

/-- Replaces the entry for one dimension. -/
def set (table : ByDimension α) (d : Dimension) (entry : α) : ByDimension α :=
  ofFn fun other => if other = d then entry else table.get other

/-- The table made by a function has the values of the function. -/
@[simp] theorem get_ofFn (entry : Dimension → α) (d : Dimension) :
    (ofFn entry).get d = entry d := by
  -- There is one entry for each dimension.
  cases d <;> rfl

/-- The constant table has its entry everywhere. -/
@[simp] theorem get_const (entry : α) (d : Dimension) : (const entry).get d = entry :=
  -- A constant table is made by a constant function.
  get_ofFn _ d

/-- Replacing an entry changes that entry alone. -/
theorem get_set (table : ByDimension α) (d other : Dimension) (entry : α) :
    (table.set d entry).get other = if other = d then entry else table.get other :=
  -- The table with a replaced entry is made by a function that asks for that dimension first.
  get_ofFn _ other

/-- The replaced entry is the new one. -/
@[simp] theorem get_set_self (table : ByDimension α) (d : Dimension) (entry : α) :
    (table.set d entry).get d = entry := by
  -- A dimension is equal to itself, so the new entry is found.
  simp [get_set]

/-- Tables with equal entries are equal. -/
@[ext] theorem ext_get {a b : ByDimension α} (same : ∀ d, a.get d = b.get d) : a = b := by
  -- Tables have no parts but their entries.
  cases a
  cases b
  simp only [mk.injEq]
  exact ⟨same .service, same .endpoint, same .region, same .environment, same .metricName,
    same .status⟩

end ByDimension

end Viewpoint
