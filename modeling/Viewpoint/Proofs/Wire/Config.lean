import Viewpoint.Proofs.Json.Layout
import Viewpoint.Proofs.Validation
import Viewpoint.Proofs.Wire.Decode
import Viewpoint.Report.Config

/-! A configuration that is printed as JSON loads back as it was. -/

namespace Viewpoint

/-- To decode the printed text of a value is to decode the value. -/
theorem Decode.ofText_pretty {α : Type} (decode : Json → Decoded α) (value : Json) :
    ofText decode (value.pretty ++ "\n") = decode value := by
  -- The printed text is the layout with the line ended behind it.
  have line : "\n".toList = ['\n'] := rfl
  rw [ofText, Json.pretty, String.toList_append, String.toList_ofList, line, Json.read?_layout]

/-- A preset whose width is a word is read back. -/
theorem Preset.ofJson_toJson {preset : Preset} (small : preset.seconds < Decode.wordLimit) :
    ofJson preset.toJson = .ok preset := by
  -- The name is read back like all names, and the width is a word.
  simp [ofJson, toJson, bind, Except.bind, Decode.nat_nat small, pure, Except.pure]

/-- A hierarchy is read back, whatever its levels are. -/
theorem Hierarchy.inverts : Decode.Inverts ofJson toJson := by
  -- The levels are a list of names.
  intro hierarchy
  have levels := (Decode.Inverts.list (Decode.name_named false)) hierarchy.levels
  rw [ofJson, toJson, levels]
  rfl

namespace Config

variable {config : Config}

/-- A configuration is read back, valid or not; no field falls back to its standard value. -/
theorem ofJson_toJson (fits : config.FitsWords) : ofJson config.toJson = .ok config := by
  -- Each of the fields is read back by itself.
  have presets : Decode.list Preset.ofJson (.list Preset.toJson config.presets) =
      .ok config.presets :=
    Decode.list_list fun preset listed => Preset.ofJson_toJson (fits.widths preset listed)
  have defaults : Decode.list (Decode.name false) (.list .named config.mandatoryDefaults) =
      .ok config.mandatoryDefaults := Decode.Inverts.list (Decode.name_named false) _
  have hierarchy := Hierarchy.inverts config.hierarchy
  have rounds := Decode.nat_nat fits.rounds
  simp [ofJson, toJson, fieldNames, bind, Except.bind, presets, defaults, hierarchy, rounds, pure,
    Except.pure]

/--
What is printed of a valid configuration whose rounds are a word loads as this configuration: its
text is read, each field is decoded to what it was, and the result is valid again.
-/
theorem load_print (valid : config.validate = .ok ())
    (rounds : config.maxRefreshRounds < UInt64.size) :
    load (Report.print .json config) = .ok config := by
  -- A sound configuration has words for its widths, so it is read back and passes the check once
  -- more.
  have fits : config.FitsWords := (validate_eq_ok_iff.1 valid).fitsWords rounds
  have decoded : Decode.ofText ofJson (Report.print .json config) = .ok config := by
    rw [Report.print, Decode.ofText_pretty]
    exact ofJson_toJson fits
  rw [load, decoded]
  simp only [valid]

/-- No field of these settings is as it is by default, and they are printed and loaded. -/
theorem load_print_extreme : extreme.validate = .ok () ∧ extreme.maxRefreshRounds < UInt64.size ∧
    load (Report.print .json extreme) = .ok extreme :=
  -- The settings are valid, and their rounds are the greatest word.
  ⟨by decide, by decide, load_print (by decide) (by decide)⟩

end Config
end Viewpoint
