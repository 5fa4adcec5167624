import Viewpoint.Config

/-! A configuration is valid exactly if everything that it names is there once and in bounds. -/

namespace Viewpoint

/-- The words of 64 bits that have a sign end below this number. -/
def signedLimit : Nat := Nat.pow 2 63

/-- A width can be used exactly if it is positive and its milliseconds fit into a signed word. -/
theorem Preset.isUsable_iff {preset : Preset} :
    preset.isUsable ↔ 1 ≤ preset.seconds ∧ 1000 * preset.seconds < signedLimit := by
  -- The greatest number of whole seconds below the limit is the one that is compared with.
  have greatest : greatestSpan = 9223372036854775 := rfl
  have limit : signedLimit = 9223372036854775808 := rfl
  simp only [isUsable, Bool.and_eq_true, decide_eq_true_eq]
  omega

namespace Config

variable {config : Config}

/-- No element is repeated exactly if all are distinct, and none is among those before the list. -/
theorem firstRepeated?_eq_none_iff {α : Type} [BEq α] [LawfulBEq α] {before items : List α} :
    firstRepeated? before items = none ↔ items.Nodup ∧ ∀ x ∈ items, x ∉ before := by
  -- Induction on the list; each element joins those that the later ones must not repeat.
  induction items generalizing before with
  | nil => simp [firstRepeated?]
  | cons x rest ih =>
    rw [firstRepeated?, List.nodup_cons, List.forall_mem_cons]
    by_cases repeated : x ∈ before
    · simp [repeated]
    · simp only [List.contains_iff_mem, repeated, if_false, ih, List.mem_append,
        List.mem_singleton, not_or, not_false_eq_true, true_and]
      constructor
      · rintro ⟨distinct, apart⟩
        exact ⟨⟨fun inside => (apart x inside).2 rfl, distinct⟩, fun y listed => (apart y listed).1⟩
      · rintro ⟨⟨new, distinct⟩, apart⟩
        refine ⟨distinct, fun y listed => ⟨apart y listed, ?_⟩⟩
        rintro rfl
        exact new listed

/-- A table has no fault exactly if each width can be used and no name is repeated. -/
theorem presetFault?_eq_none_iff {before : List PresetId} {presets : List Preset} :
    presetFault? before presets = none ↔ (∀ preset ∈ presets, preset.isUsable) ∧
      firstRepeated? before (presets.map Preset.id) = none := by
  -- Induction on the table; the two faults are looked for in turn, preset by preset.
  induction presets generalizing before with
  | nil => simp [presetFault?, firstRepeated?]
  | cons preset rest ih =>
    rw [presetFault?, List.map_cons, firstRepeated?, List.forall_mem_cons]
    cases preset.isUsable with
    | false => simp
    | true =>
      cases before.contains preset.id with
      | true => simp
      | false => simp [ih]

/-- What a configuration needs: presets, levels and rounds, each within its bounds. -/
structure Sound (config : Config) : Prop where
  widths : ∀ preset ∈ config.presets, 1 ≤ preset.seconds ∧ 1000 * preset.seconds < signedLimit
  names : (config.presets.map Preset.id).Nodup
  listed : config.defaultPreset ∈ config.presets.map Preset.id
  levels : config.hierarchy.levels ≠ []
  distinct : config.hierarchy.levels.Nodup
  rounds : 1 ≤ config.maxRefreshRounds

/-- A hierarchy has no fault exactly if it has levels, and no two of one dimension. -/
theorem hierarchyFault?_eq_none_iff {hierarchy : Hierarchy} :
    hierarchyFault? hierarchy = none ↔ hierarchy.levels ≠ [] ∧ hierarchy.levels.Nodup := by
  -- The levels are first checked to be there, and then to be distinct.
  rw [hierarchyFault?]
  cases empty : hierarchy.levels.isEmpty with
  | true => simp [List.isEmpty_iff.1 empty]
  | false =>
    have filled : hierarchy.levels ≠ [] := by simpa using empty
    simp [firstRepeated?_eq_none_iff, filled]

/-- A configuration is accepted exactly if it has what it needs. -/
theorem validate_eq_ok_iff : config.validate = .ok () ↔ config.Sound := by
  -- The checks are made one after the other, so there is no fault if each finds none.
  have accepted : config.validate = .ok () ↔ config.fault? = none := by
    cases faults : config.fault? <;> simp [validate, faults]
  have default : (config.presets.any fun preset => preset.id == config.defaultPreset) = true ↔
      config.defaultPreset ∈ config.presets.map Preset.id := by simp
  have faultless : config.fault? = none ↔
      presetFault? [] config.presets = none ∧
        config.defaultPreset ∈ config.presets.map Preset.id ∧
        hierarchyFault? config.hierarchy = none ∧ config.maxRefreshRounds ≠ 0 := by
    simp only [fault?, Option.or_eq_none_iff, ← default]
    simp [and_assoc]
  rw [accepted, faultless, presetFault?_eq_none_iff, firstRepeated?_eq_none_iff,
    hierarchyFault?_eq_none_iff]
  constructor
  · rintro ⟨⟨usable, names, -⟩, listed, ⟨levels, distinct⟩, rounds⟩
    exact ⟨fun preset inside => Preset.isUsable_iff.1 (usable preset inside), names, listed,
      levels, distinct, Nat.one_le_iff_ne_zero.2 rounds⟩
  · intro sound
    exact ⟨⟨fun preset inside => Preset.isUsable_iff.2 (sound.widths preset inside), sound.names,
      by simp⟩, sound.listed, ⟨sound.levels, sound.distinct⟩,
      Nat.one_le_iff_ne_zero.1 sound.rounds⟩

/-- The widths and the rounds of a configuration are given as words of 64 bits. -/
structure FitsWords (config : Config) : Prop where
  widths : ∀ preset ∈ config.presets, preset.seconds < UInt64.size
  rounds : config.maxRefreshRounds < UInt64.size

/-- The widths of a configuration that has what it needs are words. -/
theorem Sound.fitsWords (sound : config.Sound) (rounds : config.maxRefreshRounds < UInt64.size) :
    config.FitsWords where
  -- Usable widths are below a bound that is far below a word.
  widths preset listed := by
    have width := (sound.widths preset listed).2
    have size : UInt64.size = 2 * signedLimit := rfl
    omega
  rounds := rounds

/-- The greatest width and number of rounds, a default given twice, and levels of its own. -/
def extreme : Config where
  presets := [⟨.lastHour, Preset.greatestSpan⟩, ⟨.last7Days, 1⟩]
  defaultPreset := .lastHour
  mandatoryDefaults := [.status, .service, .status]
  drillPolicy := .unwind
  brushPolicy := .applyOnCommit
  hierarchy := ⟨[.status, .region]⟩
  maxRefreshRounds := UInt64.size - 1

end Config

end Viewpoint
