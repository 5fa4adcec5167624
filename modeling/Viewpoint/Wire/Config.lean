import Viewpoint.Config
import Viewpoint.Json.Writer
import Viewpoint.Wire.Snapshot

/-! Configurations in JSON. -/

namespace Viewpoint

namespace Preset

/-- The JSON of a preset. -/
def toJson (preset : Preset) : Json :=
  .record [("id", .named preset.id), ("seconds", .nat preset.seconds)]

/-- Decodes a preset. -/
def ofJson (value : Json) : Decoded Preset := do
  let known ← Decode.fields ["id", "seconds"] 2 value
  let id ← Decode.required known "id" (Decode.name false)
  let seconds ← Decode.required known "seconds" Decode.nat
  return { id, seconds }

end Preset

namespace Config

/-- The JSON of a configuration. -/
def toJson (config : Config) : Json :=
  .record [("presets", .list Preset.toJson config.presets),
    ("default_preset", .named config.defaultPreset),
    ("mandatory_defaults", .list .named config.mandatoryDefaults),
    ("drilldown_policy", .named config.drillPolicy),
    ("brush_policy", .named config.brushPolicy),
    ("hierarchy", config.hierarchy.toJson),
    ("max_refresh_rounds", .nat config.maxRefreshRounds)]

/-- The names of the fields of a configuration. -/
def fieldNames : List String :=
  ["presets", "default_preset", "mandatory_defaults", "drilldown_policy", "brush_policy",
    "hierarchy", "max_refresh_rounds"]

/-- Decodes a configuration; fields that are missing have their standard values. -/
def ofJson (value : Json) : Decoded Config := do
  let known ← Decode.fields fieldNames 0 value
  let presets ← Decode.fieldOr known "presets" standard.presets (Decode.list Preset.ofJson)
  let defaultPreset ←
    Decode.fieldOr known "default_preset" standard.defaultPreset (Decode.name false)
  let mandatoryDefaults ← Decode.fieldOr known "mandatory_defaults" standard.mandatoryDefaults
    (Decode.list (Decode.name false))
  let drillPolicy ← Decode.fieldOr known "drilldown_policy" standard.drillPolicy (Decode.name false)
  let brushPolicy ← Decode.fieldOr known "brush_policy" standard.brushPolicy (Decode.name false)
  let hierarchy ← Decode.fieldOr known "hierarchy" standard.hierarchy Hierarchy.ofJson
  let maxRefreshRounds ←
    Decode.fieldOr known "max_refresh_rounds" standard.maxRefreshRounds Decode.nat
  return { presets, defaultPreset, mandatoryDefaults, drillPolicy, brushPolicy, hierarchy,
           maxRefreshRounds }

/-- Why there is no configuration: no text, none that can be decoded, or one with a fault. -/
inductive LoadError where
  | unreadable (path reason : String)
  | undecodable (error : DecodeError)
  | invalid (cause : Rejection)
  deriving DecidableEq, Repr

/-- The wording of an error, given the wording of errors of decoding. -/
def LoadError.message (describe : DecodeError → String) : LoadError → String
  | unreadable path reason => s!"invalid configuration: cannot read {path}: {reason}"
  | undecodable error => s!"invalid configuration: {describe error}"
  | invalid cause => cause.message

/-- Loads a configuration from its text. -/
def load (content : String) : Except LoadError Config :=
  match Decode.ofText ofJson content with
  | .error error => .error (.undecodable error)
  | .ok config =>
    match config.validate with
    | .error cause => .error (.invalid cause)
    | .ok _ => .ok config

end Config

end Viewpoint
