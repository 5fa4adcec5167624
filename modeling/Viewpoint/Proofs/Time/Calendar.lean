import Viewpoint.Time.Calendar

/-! The days of the calendar are numbered without gaps, and each number names a valid date. -/

namespace Viewpoint

/-- The number of days in a year. -/
def yearLength (year : Int) : Int :=
  if isLeapYear year then 366 else 365

/-- The next year begins where a year ends. -/
theorem daysBeforeYear_succ (year : Int) :
    daysBeforeYear (year + 1) = daysBeforeYear year + yearLength year := by
  -- Whether a leap day is counted depends on the remainders by 4, 100 and 400.
  simp only [daysBeforeYear, yearLength, isLeapYear, Bool.and_eq_true, Bool.or_eq_true,
    beq_iff_eq, bne_iff_ne]
  split <;> omega

/-- A later year does not begin earlier. -/
theorem daysBeforeYear_mono {a b : Int} (later : a ≤ b) : daysBeforeYear a ≤ daysBeforeYear b := by
  -- The leap days left out in between are never more than the years.
  simp only [daysBeforeYear]
  have fourth : (a - 1) / 4 ≤ (b - 1) / 4 := Int.ediv_le_ediv (by decide) (by omega)
  have century : (b - 1) / 100 ≤ (a - 1) / 100 + (b - a) := by omega
  have fourHundredth : (a - 1) / 400 ≤ (b - 1) / 400 := Int.ediv_le_ediv (by decide) (by omega)
  omega

/-- The year of a day has begun on that day and is not over. -/
theorem yearOfDay_spec (day : Int) :
    daysBeforeYear (yearOfDay day) ≤ day ∧ day < daysBeforeYear (yearOfDay day + 1) := by
  -- The guess from the mean length of a year misses by at most one year.
  have earliest : daysBeforeYear (day * 400 / 146097 + 1 - 1) ≤ day := by
    simp only [daysBeforeYear]
    omega
  have latest : day < daysBeforeYear (day * 400 / 146097 + 1 + 1 + 1) := by
    simp only [daysBeforeYear]
    omega
  unfold yearOfDay
  simp only
  split
  case isTrue early =>
    rw [Int.sub_add_cancel]
    exact ⟨earliest, early⟩
  case isFalse begun =>
    split
    case isTrue ended => exact ⟨ended, latest⟩
    case isFalse lasting => exact ⟨by omega, by omega⟩

/-- The number of days in months of the given lengths. -/
def totalDays : List Nat → Nat
  | [] => 0
  | length :: lengths => length + totalDays lengths

/-- Days can be added up from the front as well. -/
theorem foldl_add_eq (lengths : List Nat) (days : Nat) :
    lengths.foldl Nat.add days = days + totalDays lengths := by
  -- The induction is on the lengths, for any days that were counted before.
  induction lengths generalizing days with
  | nil => rfl
  | cons length lengths ih =>
    rw [List.foldl_cons, ih, totalDays]
    exact Nat.add_assoc days length (totalDays lengths)

/-- Skipping months leaves a day of the month that was reached, and loses no day. -/
theorem skipMonths_spec {lengths : List Nat} {day : Nat} (within : day < totalDays lengths) :
    ∃ length, lengths[(skipMonths lengths day).1]? = some length
      ∧ (skipMonths lengths day).2 < length
      ∧ totalDays (lengths.take (skipMonths lengths day).1) + (skipMonths lengths day).2 = day := by
  -- Induction on the months, as they are skipped.
  induction lengths generalizing day with
  | nil => cases within
  | cons length lengths ih =>
    rw [skipMonths]
    split
    case isTrue inside => exact ⟨length, rfl, inside, Nat.zero_add day⟩
    case isFalse beyond =>
      rw [totalDays] at within
      obtain ⟨reached, here, inside, whole⟩ :=
        ih (show day - length < totalDays lengths by omega)
      refine ⟨reached, by simpa using here, inside, ?_⟩
      simp only [List.take_succ_cons, totalDays]
      omega

/-- The months of a year make up the year. -/
theorem totalDays_monthLengths (year : Int) :
    totalDays (monthLengths (isLeapYear year)) = yearLength year := by
  -- There are two kinds of years.
  unfold yearLength
  cases isLeapYear year <;> rfl

namespace Date

/-- The days before a month are those of the months before it. -/
theorem dayNumber_eq (date : Date) :
    date.dayNumber = daysBeforeYear date.year
      + totalDays ((monthLengths (isLeapYear date.year)).take (date.month - 1))
      + date.day - 1 := by
  -- The months are added up from the first.
  rw [dayNumber, foldl_add_eq, Nat.zero_add]

/-- The date that a number names is valid and has that number. -/
theorem ofDayNumber_spec (day : Int) :
    (ofDayNumber day).isValid ∧ (ofDayNumber day).dayNumber = day := by
  -- The day lies within the year that was found, and so within one of its months.
  obtain ⟨begun, lasting⟩ := yearOfDay_spec day
  rw [daysBeforeYear_succ, ← totalDays_monthLengths] at lasting
  have within : (day - daysBeforeYear (yearOfDay day)).toNat
      < totalDays (monthLengths (isLeapYear (yearOfDay day))) := by omega
  obtain ⟨length, reached, inside, whole⟩ := skipMonths_spec within
  rw [dayNumber_eq]
  unfold ofDayNumber isValid
  simp only [Nat.add_sub_cancel, reached]
  constructor
  · simp only [Bool.and_eq_true, decide_eq_true_eq]
    omega
  · omega

/-- A valid date has a month up to 12 and a day up to 31. -/
theorem le_of_isValid {date : Date} (valid : date.isValid) : date.month ≤ 12 ∧ date.day ≤ 31 := by
  -- Both kinds of years have twelve months, none of which is longer than 31 days.
  have short : ∀ leap, (monthLengths leap).length = 12 ∧ ∀ length ∈ monthLengths leap,
      length ≤ 31 := by decide
  simp only [isValid, Bool.and_eq_true, decide_eq_true_eq] at valid
  obtain ⟨_, month⟩ := valid
  split at month
  case h_1 length reached =>
    obtain ⟨inside, _⟩ := List.getElem?_eq_some_iff.1 reached
    rw [(short _).1] at inside
    have limit := (short _).2 length (List.mem_of_getElem? reached)
    have day := of_decide_eq_true month
    omega
  case h_2 => cases month

end Date

end Viewpoint
