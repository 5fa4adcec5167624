import Viewpoint.Config

/-! When a table gives a preset a time range, and how it is refused otherwise. -/

namespace Viewpoint

namespace Instant

variable {t start : Instant} {seconds : Nat}

/--
The number of the second that lies the given number of seconds before that of an instant; a leap
second is counted as the second that follows it.
-/
def secondBefore (t : Instant) (seconds : Nat) : Int :=
  (if t.inLeapSecond then t.second + 1 else t.second) - seconds

/-- Parts that are in range make an instant. -/
theorem make?_eq_none_iff {second : Int} {nanos : Nat} (late : second ≤ lastSecond)
    (small : nanos < nanosPerSecond) : make? second nanos = none ↔ second < firstSecond := by
  -- Only the second can be out of range, and only before all others.
  have fits : nanos < 2 * nanosPerSecond := Nat.lt_of_lt_of_le small (by decide)
  simp only [make?, late, fits, and_true, dite_true]
  split
  case isTrue early => simp [Int.not_lt.2 early]
  case isFalse before => simp [Int.not_le.1 before]

/-- An instant that was made has the given parts. -/
theorem of_make?_eq_some {second : Int} {nanos : Nat} (made : make? second nanos = some t) :
    t.second = second ∧ t.nanos = nanos := by
  -- Parts out of range make no instant, so the two checks were passed.
  simp only [make?] at made
  split at made
  · split at made
    · cases made
      exact ⟨rfl, rfl⟩
    · cases made
  · cases made

/-- Going back is to make an instant of the second that is reached. -/
theorem addSeconds?_neg (positive : 0 < seconds) : t.addSeconds? (-seconds)
    = make? (t.secondBefore seconds) (t.nanos % nanosPerSecond) := by
  -- Only from within a leap second is one second more to go, and there the nanoseconds start again.
  have back : ¬ (0 : Int) < -seconds := by omega
  have away : -(seconds : Int) ≠ 0 := by omega
  have nanos := t.nanos_lt
  rw [addSeconds?, secondBefore]
  cases leap : t.inLeapSecond with
  | false =>
    have small : t.nanos < nanosPerSecond := by simpa [inLeapSecond] using leap
    rw [Bool.not_false, Bool.true_or, if_pos rfl, if_neg (by decide), Nat.mod_eq_of_lt small,
      Int.sub_eq_add_neg]
  | true =>
    have large : nanosPerSecond ≤ t.nanos := by simpa [inLeapSecond] using leap
    have rest : t.nanos % nanosPerSecond = t.nanos - nanosPerSecond := by
      rw [Nat.mod_eq_sub_mod large, Nat.mod_eq_of_lt (by omega)]
    rw [if_neg (by simpa using away), if_neg back, if_pos rfl, rest, Int.sub_eq_add_neg]

/-- Going back leads nowhere only if it leads before all instants. -/
theorem addSeconds?_neg_eq_none_iff (positive : 0 < seconds) :
    t.addSeconds? (-seconds) = none ↔ t.secondBefore seconds < firstSecond := by
  -- A step back of at least one second cannot end after the last second, not even from a leap
  -- second.
  have late : t.secondBefore seconds ≤ lastSecond := by
    have := t.second_mem
    unfold secondBefore
    split <;> omega
  rw [addSeconds?_neg positive, make?_eq_none_iff late (Nat.mod_lt _ (by decide))]

/-- Going back leads to an earlier instant. -/
theorem lt_of_addSeconds?_neg (positive : 0 < seconds)
    (reached : t.addSeconds? (-seconds) = some start) : start < t := by
  rw [addSeconds?_neg positive] at reached
  obtain ⟨second, nanos⟩ := of_make?_eq_some reached
  change start.second < t.second ∨ (start.second = t.second ∧ start.nanos < t.nanos)
  rw [second, nanos, secondBefore]
  cases leap : t.inLeapSecond with
  | false =>
    rw [if_neg (by decide)]
    omega
  | true =>
    -- One second before a leap second the number of the second is the same.
    have large : nanosPerSecond ≤ t.nanos := by simpa [inLeapSecond] using leap
    have small : t.nanos % nanosPerSecond < nanosPerSecond := Nat.mod_lt _ (by decide)
    rw [if_pos rfl]
    omega

/-- Outside of leap seconds, what was gone back is measured again to the nanosecond. -/
theorem nanosSince_of_addSeconds?_neg (plain : t.inLeapSecond = false) (positive : 0 < seconds)
    (reached : t.addSeconds? (-seconds) = some start) :
    t.nanosSince start = seconds * nanosPerSecond := by
  have small : t.nanos < nanosPerSecond := by simpa [inLeapSecond] using plain
  rw [addSeconds?_neg positive, secondBefore, plain, if_neg (by decide),
    Nat.mod_eq_of_lt small] at reached
  obtain ⟨second, nanos⟩ := of_make?_eq_some reached
  -- Nor is there a leap second where the way back ends, so none is counted in between.
  have startPlain : start.inLeapSecond = false := by simpa [inLeapSecond, nanos] using small
  simp only [nanosSince, plain, startPlain, Bool.false_eq_true, and_false, if_false, second, nanos]
  rw [Int.sub_sub_self, Int.add_zero, Int.sub_self, Int.add_zero]

end Instant

/-- A range that ends at an instant is refused only if it would start before all instants. -/
theorem TimeRange.endingAt_eq_error_iff {id : PresetId} {seconds : Nat} {finish : Instant}
    {rejection : Rejection} (positive : 0 < seconds) :
    endingAt id seconds finish = .error rejection
      ↔ finish.secondBefore seconds < firstSecond
        ∧ rejection = .invalidTimeRange finish finish := by
  -- If there is a start then it lies before the end, so the check of the ends is passed.
  rw [← Instant.addSeconds?_neg_eq_none_iff positive, endingAt]
  cases reached : finish.addSeconds? (-seconds) with
  | none => simp [eq_comm]
  | some start =>
    have ordered : start < finish := Instant.lt_of_addSeconds?_neg positive reached
    simp [between, ordered, Except.map]

/-- The range that ends at an instant starts where the way back from there ends. -/
theorem TimeRange.endingAt_eq_ok_iff {id : PresetId} {seconds : Nat} {finish : Instant}
    {range : TimeRange} : endingAt id seconds finish = .ok range ↔
      ∃ start, finish.addSeconds? (-seconds) = some start ∧ start < finish ∧
        range = ⟨start, finish, some id⟩ := by
  -- Both the way back and the check of the ends have to succeed.
  rw [endingAt]
  cases finish.addSeconds? (-seconds) with
  | none => simp
  | some start =>
    by_cases ordered : start < finish <;> simp [between, ordered, Except.map, eq_comm]

namespace Preset

variable {presets : List Preset} {now : Instant} {id : PresetId} {rejection : Rejection}

/-- A width that can be used is positive. -/
theorem pos_of_isUsable {preset : Preset} (usable : preset.isUsable) : 0 < preset.seconds := by
  -- A width is checked to be neither zero nor too great.
  simp only [isUsable, Bool.and_eq_true, decide_eq_true_eq] at usable
  exact usable.1

/-- The preset of a name is the one that a table lists under it, if it lists each name once. -/
theorem find?_of_mem (distinct : (presets.map Preset.id).Nodup) {preset : Preset}
    (listed : preset ∈ presets) :
    presets.find? (fun other => other.id == preset.id) = some preset := by
  -- The induction is on the table; another preset before it has another name.
  induction presets with
  | nil => cases listed
  | cons other presets ih =>
    obtain ⟨apart, distinct⟩ := List.nodup_cons.1 distinct
    rcases List.mem_cons.1 listed with rfl | listed
    · simp
    · have differs : other.id ≠ preset.id := fun same =>
        apart (same ▸ List.mem_map_of_mem listed)
      rw [List.find?_cons_of_neg (by simpa using differs), ih distinct listed]

/-- A name that a table does not list is refused. -/
theorem durationOf_of_not_mem (unlisted : id ∉ presets.map Preset.id) :
    durationOf presets id = .error (.unknownPreset id.name) := by
  -- The search compares names alone.
  have none : presets.find? (fun other => other.id == id) = none := by
    refine List.find?_eq_none.2 fun preset listed => ?_
    have differs : preset.id ≠ id := fun same => unlisted (same ▸ List.mem_map_of_mem listed)
    simpa using differs
  rw [durationOf, none]

/-- A preset that a table in order lists has its width. -/
theorem durationOf_of_mem (distinct : (presets.map Preset.id).Nodup) {preset : Preset}
    (listed : preset ∈ presets) (usable : preset.isUsable) :
    durationOf presets preset.id = .ok preset.seconds := by
  -- The search finds the preset, and its width passes the check.
  rw [durationOf, find?_of_mem distinct listed]
  exact if_pos usable

/-- A preset that a table in order lists has the range of its width. -/
theorem resolve_of_mem (distinct : (presets.map Preset.id).Nodup) {preset : Preset}
    (listed : preset ∈ presets) (usable : preset.isUsable) :
    resolve presets now preset.id = TimeRange.endingAt preset.id preset.seconds now := by
  -- The width is looked up first, and the range is made of it.
  rw [resolve, durationOf_of_mem distinct listed usable]
  rfl

/-- A range comes from a preset that the table lists under its name. -/
theorem resolve_eq_ok {range : TimeRange} (resolved : resolve presets now id = .ok range) :
    ∃ preset ∈ presets, preset.id = id ∧ preset.isUsable ∧
      TimeRange.endingAt id preset.seconds now = .ok range := by
  -- The search and the check of the width are both passed.
  rw [resolve, durationOf] at resolved
  cases found : presets.find? fun preset => preset.id == id with
  | none => simp [found, Except.bind] at resolved
  | some preset =>
    cases usable : preset.isUsable with
    | false => simp [found, duration, usable, Except.bind] at resolved
    | true =>
      have named : preset.id = id := by simpa using List.find?_some found
      simp only [found, duration, usable, if_true, Except.bind] at resolved
      exact ⟨preset, List.mem_of_find?_eq_some found, named, usable, resolved⟩

/-- The range of a preset carries its name, ends at the given instant and has the width listed. -/
theorem of_resolve_eq_ok {range : TimeRange} (plain : now.inLeapSecond = false)
    (resolved : resolve presets now id = .ok range) :
    range.preset = some id ∧ ∃ preset ∈ presets, preset.id = id ∧ range.finish = now ∧
      range.width = preset.seconds * nanosPerSecond := by
  -- A clock outside of leap seconds is set back by the width to the nanosecond.
  obtain ⟨preset, listed, named, usable, ranged⟩ := resolve_eq_ok resolved
  obtain ⟨start, reached, -, rfl⟩ := TimeRange.endingAt_eq_ok_iff.1 ranged
  have positive := pos_of_isUsable usable
  exact ⟨rfl, preset, listed, named, rfl,
    Instant.nanosSince_of_addSeconds?_neg plain positive reached⟩

/--
A table in order refuses a name that it does not list, and a preset that would start before all
instants.
-/
theorem resolve_eq_error_iff (distinct : (presets.map Preset.id).Nodup)
    (usable : ∀ preset ∈ presets, preset.isUsable) :
    resolve presets now id = .error rejection
      ↔ (id ∉ presets.map Preset.id ∧ rejection = .unknownPreset id.name)
        ∨ ∃ preset ∈ presets, preset.id = id ∧ now.secondBefore preset.seconds < firstSecond
          ∧ rejection = .invalidTimeRange now now := by
  by_cases known : id ∈ presets.map Preset.id
  · obtain ⟨preset, listed, rfl⟩ := List.mem_map.1 known
    have positive := pos_of_isUsable (usable preset listed)
    rw [resolve_of_mem distinct listed (usable preset listed),
      TimeRange.endingAt_eq_error_iff positive]
    constructor
    · rintro ⟨early, cause⟩
      exact .inr ⟨preset, listed, rfl, early, cause⟩
    · rintro (⟨unlisted, _⟩ | ⟨other, there, same, early, cause⟩)
      · exact absurd known unlisted
      · -- The name leads to one preset only.
        have found := find?_of_mem distinct there
        rw [same, find?_of_mem distinct listed, Option.some.injEq] at found
        exact ⟨found ▸ early, cause⟩
  · have refused : resolve presets now id = .error (.unknownPreset id.name) := by
      rw [resolve, durationOf_of_not_mem known]
      rfl
    rw [refused]
    constructor
    · rintro ⟨⟩
      exact .inl ⟨known, rfl⟩
    · rintro (⟨_, rfl⟩ | ⟨preset, listed, rfl, _⟩)
      · rfl
      · exact absurd (List.mem_map_of_mem listed) known

end Preset

end Viewpoint
