import Viewpoint.Proofs.Dashboard
import Viewpoint.Proofs.Presets
import Viewpoint.Proofs.Validation

/-! When a dashboard can be made, and that a machine that makes one does not break down. -/

namespace Viewpoint

namespace Dashboard

/--
A dashboard is refused for a valid configuration exactly if its default preset would start before
all instants.
-/
theorem create_eq_error_iff {config : Config} (sound : config.Sound) :
    ∃ preset ∈ config.presets, preset.id = config.defaultPreset ∧
      ∀ now rejection, create config now = .error rejection ↔
        now.secondBefore preset.seconds < firstSecond ∧ rejection = .invalidTimeRange now now := by
  -- The default preset is listed with a width that can be used, so only its range can fail.
  obtain ⟨preset, listed, named⟩ := List.mem_map.1 sound.listed
  refine ⟨preset, listed, named, fun now rejection => ?_⟩
  have width := sound.widths preset listed
  have made : create config now =
      (TimeRange.endingAt preset.id preset.seconds now).map (opening config now) := by
    rw [create_eq, Config.validate_eq_ok_iff.2 sound, ← named,
      Preset.resolve_of_mem sound.names listed (Preset.isUsable_iff.2 width)]
    cases TimeRange.endingAt preset.id preset.seconds now <;> rfl
  rw [made, ← TimeRange.endingAt_eq_error_iff width.1]
  cases TimeRange.endingAt preset.id preset.seconds now <;> simp [Except.map]

end Dashboard

/-- A computation of a machine: it breaks down, or it ends with a value or a rejection. -/
abbrev Machine (α : Type) := ExceptT Rejection Option α

namespace Machine

variable {α : Type}

/-- The computation that breaks down. -/
def breakdown : Machine α := ExceptT.mk none

/-- The computation that ends with a result. -/
def settled (result : Except Rejection α) : Machine α := ExceptT.mk (some result)

/-- Refuses a configuration that has a fault. -/
def refuse? : Option ConfigFault → Machine Unit
  | some fault => throw (.invalidConfig fault)
  | none => pure ()

/-- Refuses a configuration that a fault applies to. -/
def refuseIf (applies : Bool) (fault : ConfigFault) : Machine Unit :=
  if applies then throw (.invalidConfig fault) else pure ()

/-- The elements in front of a place; there have to be so many. -/
def inFront (items : List α) (place : Nat) : Machine (List α) :=
  if place ≤ items.length then pure (items.take place) else breakdown

/-- Checks each element of a list, together with those in front of it. -/
def scan (check : Machine (List α) → α → Machine Unit) (items : List α) : Machine Unit :=
  forM items.zipIdx fun (item, place) => check (inFront items place) item

/-- A word as a word with a sign, unless it is too great for one. -/
def signed? (word : UInt64) : Option Int64 :=
  if word.toNat < signedLimit then some word.toInt64 else none

/-- The seconds of a span, whose milliseconds have to fit into a word with a sign. -/
def span? (seconds : Int64) : Option Int :=
  if -signedLimit < 1000 * seconds.toInt ∧ 1000 * seconds.toInt < signedLimit then
    some seconds.toInt
  else none

/-- The width of a preset as a span, which has to be positive. -/
def width (preset : Preset) : Machine Int :=
  match ((signed? (.ofNat preset.seconds)).filter (0 < ·)).bind span? with
  | some seconds => pure seconds
  | none => throw (.invalidConfig (.unusableWidth preset))

/-- Checks a preset: first its width, then its name against those in front of it. -/
def checkPreset (earlier : Machine (List Preset)) (preset : Preset) : Machine Unit := do
  let _ ← width preset
  refuseIf ((← earlier).any fun other => other.id == preset.id) (.repeatedPreset preset.id)

/-- Checks a level against those in front of it. -/
def checkLevel (earlier : Machine (List Dimension)) (d : Dimension) : Machine Unit := do
  refuseIf ((← earlier).contains d) (.repeatedLevel d)

/-- Checks a configuration, one part after the other. -/
def validate (config : Config) : Machine Unit := do
  scan checkPreset config.presets
  refuseIf (!config.presets.any fun preset => preset.id == config.defaultPreset)
    (.unknownDefault config.defaultPreset)
  refuseIf config.hierarchy.levels.isEmpty .emptyHierarchy
  scan checkLevel config.hierarchy.levels
  refuseIf (UInt64.ofNat config.maxRefreshRounds == 0) .noRounds

/-- The time range that a table gives to the preset of a name at an instant. -/
def resolve (presets : List Preset) (now : Instant) (id : PresetId) : Machine TimeRange :=
  match presets.find? fun preset => preset.id == id with
  | none => throw (.unknownPreset id.name)
  | some preset => do
    let seconds ← width preset
    settled (TimeRange.endingAt id seconds now)

/-- Makes a dashboard: its configuration is checked, then its default preset is resolved. -/
def create (config : Config) (now : Instant) : Machine Dashboard := do
  validate config
  let range ← resolve config.presets now config.defaultPreset
  return .opening config now range

variable {check : Machine (List α) → α → Machine Unit} {presets : List Preset} {config : Config}

/-- What is in front of a place that has been reached. -/
theorem inFront_append (earlier rest : List α) :
    inFront (earlier ++ rest) earlier.length = pure earlier := by
  -- As many items as were passed stand in front.
  simp [inFront]

/-- Checks the rest of a list, given the elements in front of it. -/
def walk (check : Machine (List α) → α → Machine Unit) (earlier : List α) :
    List α → Machine Unit
  | [] => pure ()
  | item :: rest => do
    check (pure earlier) item
    walk check (earlier ++ [item]) rest

/-- No place that a scan comes to is outside the list. -/
theorem scan_eq_walk (items : List α) : scan check items = walk check [] items := by
  have visited : ∀ earlier rest : List α, (forM (rest.zipIdx earlier.length) fun (item, place) =>
      check (inFront (earlier ++ rest) place) item) = walk check earlier rest := by
    intro earlier rest
    -- Induction on the elements to come; those before them make up the place that is reached.
    induction rest generalizing earlier with
    | nil => rfl
    | cons item rest ih =>
      have next := ih (earlier ++ [item])
      rw [List.length_append, List.length_singleton, List.append_assoc,
        List.singleton_append] at next
      rw [List.zipIdx_cons, List.forM_cons, next]
      simp only [inFront_append, walk]
  exact visited [] items

/-- A number below half of the words keeps its value as a word with a sign. -/
theorem signed?_of_lt {number : Nat} (small : number < signedLimit) :
    ∃ signed, signed? (.ofNat number) = some signed ∧ signed.toInt = number := by
  -- The number is a word without a sign, whose highest bit is not set.
  have word : number < UInt64.size := Nat.lt_trans small (by decide)
  refine ⟨(UInt64.ofNat number).toInt64, ?_, ?_⟩
  · rw [signed?, UInt64.toNat_ofNat_of_lt' word, if_pos small]
  · rw [UInt64.toInt64_ofNat', Int64.toInt_ofNat_of_lt small]

/-- A word with a sign is as many seconds as its value, unless that is too great for a span. -/
theorem span?_of_toInt {signed : Int64} {number : Nat} (value : signed.toInt = number) :
    span? signed = if 1000 * number < signedLimit then some (number : Int) else none := by
  -- A span is held in milliseconds, and the number is not negative, so the lower bound is free.
  have limit : signedLimit = 9223372036854775808 := rfl
  have bounds : (-signedLimit < 1000 * (number : Int) ∧ 1000 * (number : Int) < signedLimit) ↔
      1000 * number < signedLimit := by omega
  rw [span?, value]
  simp only [bounds]

/-- The width of a preset is a span exactly if it can be used. -/
theorem width_eq {preset : Preset} (word : preset.seconds < UInt64.size) :
    width preset = settled (preset.duration.map Int.ofNat) := by
  -- Both sides ask whether the width is usable, here by conversions between words.
  have spans : ((signed? (.ofNat preset.seconds)).filter (0 < ·)).bind span? =
      if preset.isUsable then some (preset.seconds : Int) else none := by
    -- What is too great for a word with a sign is too great for a span, too.
    by_cases small : preset.seconds < signedLimit
    · obtain ⟨signed, found, value⟩ := signed?_of_lt small
      have positive : 0 < signed ↔ 1 ≤ preset.seconds := by
        rw [Int64.lt_iff_toInt_lt, value, Int64.toInt_zero]
        omega
      rw [found, Option.filter_some]
      simp only [positive, Preset.isUsable_iff, decide_eq_true_eq]
      by_cases filled : 1 ≤ preset.seconds
      · simp only [filled, if_true, true_and, Option.bind_some, span?_of_toInt value]
      · simp only [filled, if_false, false_and, Option.bind_none]
    · have tooGreat : ¬ preset.isUsable := by
        rw [Preset.isUsable_iff]
        omega
      rw [signed?, UInt64.toNat_ofNat_of_lt' word, if_neg small, if_neg tooGreat]
      rfl
  rw [width, spans, Preset.duration]
  cases preset.isUsable <;> rfl

/-- The table of presets is refused for its first fault. -/
theorem walk_checkPreset {earlier : List Preset}
    (words : ∀ preset ∈ presets, preset.seconds < UInt64.size) :
    walk checkPreset earlier presets =
      refuse? (Config.presetFault? (earlier.map Preset.id) presets) := by
  -- The induction is on the presets still to be checked.
  induction presets generalizing earlier with
  | nil => rfl
  | cons preset rest ih =>
    obtain ⟨word, words⟩ := List.forall_mem_cons.1 words
    have seen : (earlier.any fun other => other.id == preset.id) =
        (earlier.map Preset.id).contains preset.id := by
      rw [Bool.eq_iff_iff]
      simp
    rw [walk, ih words, List.map_append, List.map_singleton, checkPreset, width_eq word,
      Preset.duration, Config.presetFault?]
    cases preset.isUsable with
    | false => rfl
    | true =>
      -- The presets in front of this one are looked through for its name.
      change refuseIf (earlier.any fun other => other.id == preset.id) _ >>= _ = _
      rw [seen]
      cases (earlier.map Preset.id).contains preset.id <;> rfl

/-- The levels are refused for the first that is repeated. -/
theorem walk_checkLevel {earlier levels : List Dimension} :
    walk checkLevel earlier levels =
      refuse? ((Config.firstRepeated? earlier levels).map .repeatedLevel) := by
  -- The induction is on the levels, for any levels that were checked before.
  induction levels generalizing earlier with
  | nil => rfl
  | cons d rest ih =>
    rw [walk, ih, Config.firstRepeated?]
    change refuseIf (earlier.contains d) _ >>= _ = _
    cases earlier.contains d <;> rfl

/-- A configuration is checked as it is otherwise, without a breakdown. -/
theorem validate_eq (fits : config.FitsWords) : validate config = settled config.validate := by
  -- Each check on words decides the same question as the one on numbers.
  have asked : settled config.validate = refuse? config.fault? := by
    rw [Config.validate]
    cases config.fault? <;> rfl
  have rounds : (UInt64.ofNat config.maxRefreshRounds == 0) =
      decide (config.maxRefreshRounds = 0) := by
    have same : UInt64.ofNat config.maxRefreshRounds = 0 ↔ config.maxRefreshRounds = 0 := by
      rw [← UInt64.toNat_inj, UInt64.toNat_ofNat_of_lt' fits.rounds]
      rfl
    rw [Bool.eq_iff_iff, beq_iff_eq, same, decide_eq_true_eq]
  rw [asked, Config.fault?, Config.hierarchyFault?, validate, scan_eq_walk, scan_eq_walk,
    walk_checkPreset fits.widths, walk_checkLevel, rounds, List.map_nil]
  -- The first check that fails decides; those behind it are not made.
  cases Config.presetFault? [] config.presets with
  | some fault => rfl
  | none =>
    cases config.presets.any fun preset => preset.id == config.defaultPreset with
    | false => rfl
    | true =>
      cases config.hierarchy.levels.isEmpty with
      | true => rfl
      | false =>
        cases Config.firstRepeated? [] config.hierarchy.levels with
        | some d => rfl
        | none => by_cases none : config.maxRefreshRounds = 0 <;> simp [none] <;> rfl

/-- A preset is resolved as it is otherwise, without a breakdown. -/
theorem resolve_eq {now : Instant} {id : PresetId}
    (words : ∀ preset ∈ presets, preset.seconds < UInt64.size) :
    resolve presets now id = settled (Preset.resolve presets now id) := by
  -- Either no preset has the name, or the one that has it is in the table, so its width is a word.
  rw [resolve, Preset.resolve, Preset.durationOf]
  cases found : presets.find? fun preset => preset.id == id with
  | none => rfl
  | some preset =>
    have word := words preset (List.mem_of_find?_eq_some found)
    simp only [width_eq word]
    cases preset.duration <;> rfl

/-- A dashboard is made as it is otherwise, without a breakdown. -/
theorem create_eq {now : Instant} (fits : config.FitsWords) :
    create config now = settled (Dashboard.create config now) := by
  -- Each of the steps is equal to its counterpart, and a refusal ends both in the same way.
  rw [create, validate_eq fits, resolve_eq fits.widths, Dashboard.create_eq]
  cases config.validate with
  | error fault => rfl
  | ok _ => cases Preset.resolve config.presets now config.defaultPreset <;> rfl

end Machine

namespace Dashboard

/--
A configuration is accepted exactly if it has what it needs, and then a dashboard is made for it
unless its default preset would start before all instants. With numbers that are words, no step of
this breaks down.
-/
theorem create_exact (config : Config) :
    (config.validate = .ok () ↔ config.Sound) ∧
      (config.validate = .ok () → ∃ preset ∈ config.presets, preset.id = config.defaultPreset ∧
        ∀ now rejection, create config now = .error rejection ↔
          now.secondBefore preset.seconds < firstSecond ∧
            rejection = .invalidTimeRange now now) ∧
      (config.FitsWords → Machine.validate config = .settled config.validate ∧
        ∀ now, Machine.create config now = .settled (create config now)) :=
  -- The first two parts are about configurations of any numbers, and only the third is about words.
  ⟨Config.validate_eq_ok_iff,
    fun valid => create_eq_error_iff (Config.validate_eq_ok_iff.1 valid),
    fun fits => ⟨Machine.validate_eq fits, fun _ => Machine.create_eq fits⟩⟩

/-- The greatest width leads before all instants, which is refused without a breakdown. -/
theorem create_exact_extreme : Config.extreme.validate = .ok () ∧ Config.extreme.FitsWords ∧
    Machine.create .extreme .epoch = .settled (.error (.invalidTimeRange .epoch .epoch)) := by
  have valid : Config.extreme.validate = .ok () := by decide
  have fits : Config.extreme.FitsWords := ⟨by decide, by decide⟩
  obtain ⟨preset, listed, named, refused⟩ := (create_exact .extreme).2.1 valid
  -- The first preset is the default one, and its width is millions of years.
  have early : Instant.epoch.secondBefore preset.seconds < firstSecond := by
    have first : preset = ⟨.lastHour, Preset.greatestSpan⟩ := by
      rcases List.mem_pair.1 listed with rfl | rfl
      · rfl
      · cases named
    rw [first]
    decide
  refine ⟨valid, fits, ?_⟩
  rw [((create_exact .extreme).2.2 fits).2, (refused _ _).2 ⟨early, rfl⟩]

end Dashboard

end Viewpoint
