import Viewpoint.Reconcile
import Viewpoint.Wire.Decode

/-! Filters, candidates and their changes in JSON. -/

namespace Viewpoint

namespace Filters

/-- The JSON of filters: every dimension with its value or null. -/
def toJson (filters : Filters) : Json :=
  .record (filters.entries.map fun (d, value) => (d.name, .orNull .text value))

/-- Sets filters from the members of an object; of several for one dimension the last counts. -/
def setMembers (filters : Filters) : List (Option String × Json) → Decoded Filters
  | [] => .ok filters
  | (key, value) :: members => do
    let d ← Decode.found (key.bind Named.find?)
    let value ← Decode.optional Decode.text value
    setMembers (filters.set d value) members

/-- Decodes filters. -/
def ofJson : Json → Decoded Filters
  | .object members => setMembers .none members
  | _ => .error .unexpected

end Filters

/-- The name of the list of candidates of a dimension. -/
def Dimension.listName : Dimension → String
  | service => "services"
  | endpoint => "endpoints"
  | region => "regions"
  | environment => "environments"
  | metricName => "metrics"
  | status => "statuses"

namespace Candidates

/-- The JSON of candidates: the lists that are loaded. -/
def toJson (candidates : Candidates) : Json :=
  .record (Dimension.all.flatMap fun d =>
    Json.present d.listName (.list .text) (candidates.get d))

/-- Decodes candidates. -/
def ofJson (value : Json) : Decoded Candidates := do
  let known ← Decode.fields (Dimension.all.map Dimension.listName) 0 value
  let list (d : Dimension) := Decode.optionalField known d.listName (Decode.list Decode.text)
  return ⟨⟨← list .service, ← list .endpoint, ← list .region, ← list .environment,
    ← list .metricName, ← list .status⟩⟩

end Candidates

namespace Change

/-- The JSON of a change. -/
def toJson (change : Change) : Json :=
  .record [("dimension", .named change.dimension), ("from", .orNull .text change.old),
    ("to", .orNull .text change.new), ("reason", .named change.reason)]

/-- Decodes a change. -/
def ofJson (value : Json) : Decoded Change := do
  let known ← Decode.fields ["dimension", "from", "to", "reason"] 4 value
  let dimension ← Decode.required known "dimension" (Decode.name false)
  let old ← Decode.optionalField known "from" Decode.text
  let new ← Decode.optionalField known "to" Decode.text
  let reason ← Decode.required known "reason" (Decode.name false)
  return { dimension, old, new, reason }

end Change

end Viewpoint
