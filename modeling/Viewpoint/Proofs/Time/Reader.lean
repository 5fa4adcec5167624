import Viewpoint.Proofs.Text.Digits
import Viewpoint.Proofs.Time.Calendar
import Viewpoint.Time.Reader
import Viewpoint.Time.Writer

/-!
Written instants are read back, in all years and to the nanosecond, but for the leap seconds that
are written like the second after them.
-/

namespace Viewpoint

/-- A digit is no blank. -/
theorem isBlank_of_isDigit {c : Char} (digit : c.isDigit) : isBlank c = false := by
  -- Digits are the code points from 48 to 57, which lie in no interval of blanks.
  have range : 48 ≤ c.toNat ∧ c.toNat ≤ 57 := Char.isDigit_iff_toNat.1 digit
  simp only [isBlank, blankIntervals, List.any_cons, List.any_nil, Bool.or_false,
    Bool.or_eq_false_iff, Bool.and_eq_false_iff, decide_eq_false_iff_not]
  omega

/-- A text that starts with no blank has none to skip. -/
theorem skipBlanks_cons {c : Char} {text : List Char} (inked : isBlank c = false) :
    skipBlanks (c :: text) = c :: text := by
  -- The first character is kept, and so are all others.
  simp [skipBlanks, inked]

/-- A written number starts with a digit. -/
theorem paddedDigits_eq_cons (width n : Nat) :
    ∃ c rest, paddedDigits width n = c :: rest ∧ c.isDigit := by
  -- A written number is not empty, and all of it is digits.
  obtain ⟨c, rest, front⟩ : ∃ c rest, paddedDigits width n = c :: rest :=
    List.exists_cons_of_ne_nil paddedDigits_ne_nil
  exact ⟨c, rest, front, isDigit_paddedDigits c (front ▸ List.mem_cons_self)⟩

namespace TimeReader

variable {text : List Char} {n : Nat}

/-- A number of two digits is read back. -/
theorem readPair?_paddedDigits (fits : n < 100) :
    readPair? (paddedDigits 2 n ++ text) = some (n, text) := by
  -- The number starts with a digit, so no blank is skipped.
  obtain ⟨c, rest, front, digit⟩ := paddedDigits_eq_cons 2 n
  have inked : skipBlanks (paddedDigits 2 n ++ text) = paddedDigits 2 n ++ text := by
    rw [front, List.cons_append, skipBlanks_cons (isBlank_of_isDigit digit)]
  rw [readPair?, inked, readDigits?_paddedDigits (by decide) fits]

/-- A mark that is no blank is read. -/
theorem readMark?_cons (mark : Char) (inked : isBlank mark = false) :
    readMark? mark (mark :: text) = some text := by
  -- No blank is skipped, and the mark is the one that is looked for.
  simp [readMark?, skipBlanks_cons inked, readChar?]

/-- A number that may be wider than asked is read back whole, if digits end behind it. -/
theorem readDigits?_whole (width : Nat) (ends : DigitsEnd text) :
    readDigits? (paddedDigits width n ++ text).length (paddedDigits width n ++ text)
      = some (n, text) := by
  -- There is room for as many digits as the whole text has characters.
  have fits : (paddedDigits width n).length ≤ (paddedDigits width n ++ text).length := by
    rw [List.length_append]
    omega
  rw [readDigits?_append isDigit_paddedDigits paddedDigits_ne_nil (.inr ⟨fits, ends⟩),
    digitsValue_paddedDigits]

/-- A year is read back: with a sign if it has one, and of four digits otherwise. -/
theorem readYear?_yearText (year : Int) (ends : DigitsEnd text) :
    readYear? (yearText year ++ text) = some (year, text) := by
  -- A year of more than four digits or before the first has a sign, and is read up to the end of
  -- its digits.
  unfold yearText
  simp only
  split
  case isTrue before =>
    have value : -(year.natAbs : Int) = year := by omega
    rw [List.singleton_append, List.cons_append, readYear?, skipBlanks_cons (by decide)]
    simp only [readDigits?_whole 4 ends, Option.map_some, value]
  case isFalse begun =>
    have value : (year.natAbs : Int) = year := by omega
    split
    case isTrue after =>
      rw [List.singleton_append, List.cons_append, readYear?, skipBlanks_cons (by decide)]
      simp only [readDigits?_whole 4 ends, Option.map_some, value]
    case isFalse unsigned =>
      obtain ⟨c, rest, front, digit⟩ := paddedDigits_eq_cons 4 year.natAbs
      have read : readDigits? 4 (paddedDigits 4 year.natAbs ++ text)
          = some (year.natAbs, text) :=
        readDigits?_paddedDigits (by decide) (show year.natAbs < 10000 by omega)
      rw [front, List.cons_append] at read
      rw [List.nil_append, front, List.cons_append, readYear?,
        skipBlanks_cons (isBlank_of_isDigit digit)]
      split
      -- The first character is a digit and so neither of the signs.
      case h_1 digits same =>
        injection same with sign _
        exact absurd (sign ▸ digit) (by decide)
      case h_2 digits same =>
        injection same with sign _
        exact absurd (sign ▸ digit) (by decide)
      case h_3 => simp only [read, Option.map_some, value]

/-- A date with two digits for month and day is read back. -/
theorem readDate?_text {date : Date} (month : date.month < 100) (day : date.day < 100) :
    readDate? (date.text ++ text) = some (date, text) := by
  -- Each part is read from the front of what is left, and the hyphens end the numbers.
  simp only [readDate?, Date.text, List.append_assoc, List.cons_append, Option.bind_eq_bind,
    readYear?_yearText _ (digitsEnd_cons (c := '-') (by decide)), Option.bind_some,
    readMark?_cons '-' (by decide), readPair?_paddedDigits month,
    readPair?_paddedDigits day]
  rfl

/-- Digits after a point stand for as many nanoseconds as their last place has. -/
theorem readNanos?_paddedDigits {width unit : Nat} (positive : 0 < width) (most : width ≤ 9)
    (fits : n < Nat.pow 10 width) (place : Nat.pow 10 (9 - width) = unit)
    (ends : DigitsEnd text) :
    readNanos? ('.' :: paddedDigits width n ++ text) = some (n * unit, text) := by
  -- At most nine digits are written, so none is dropped.
  have length := length_paddedDigits_of_lt positive fits
  have kept : (paddedDigits width n).take 9 = paddedDigits width n :=
    List.take_of_length_le (by omega)
  have value : nanosOf (paddedDigits width n) = n * unit := by
    rw [nanosOf, kept, digitsValue_paddedDigits, length, place]
  rw [List.cons_append, readNanos?]
  simp only [takeWhile_digits isDigit_paddedDigits ends, dropWhile_digits isDigit_paddedDigits ends,
    value]
  simp [paddedDigits_ne_nil]

/-- The part of a second is read back, however many digits it is written with. -/
theorem readNanos?_fractionText {nanos : Nat} (small : nanos < nanosPerSecond)
    (ends : DigitsEnd text) (pointless : ∀ c ∈ text.head?, c ≠ '.') :
    readNanos? (fractionText nanos ++ text) = some (nanos, text) := by
  have small : nanos < 1000000000 := small
  unfold fractionText
  split
  case isTrue none =>
    cases text with
    | nil => rw [none]; rfl
    | cons c text =>
      rw [List.nil_append, none, readNanos?]
      rintro _ ⟨⟩
      exact pointless '.' rfl rfl
  case isFalse =>
    -- Three, six or nine digits are written, whichever are enough.
    split
    case isTrue millis =>
      have fits : nanos / 1000000 < 1000 := by omega
      have whole : nanos / 1000000 * 1000000 = nanos := by omega
      rw [readNanos?_paddedDigits (by decide) (by decide) fits rfl ends, whole]
    case isFalse =>
      split
      case isTrue micros =>
        have fits : nanos / 1000 < 1000000 := by omega
        have whole : nanos / 1000 * 1000 = nanos := by omega
        rw [readNanos?_paddedDigits (by decide) (by decide) fits rfl ends, whole]
      case isFalse =>
        have whole : nanos * 1 = nanos := Nat.mul_one nanos
        rw [readNanos?_paddedDigits (by decide) (by decide) small rfl ends, whole]

end TimeReader

namespace Instant

/-- What a clock shows in universal time at an instant. -/
def clock (t : Instant) : TimeReader.Clock :=
  ⟨t.clockReading.1, t.clockReading.2.1, t.clockReading.2.2, t.nanos % nanosPerSecond⟩

/-- A clock shows hours below 24, minutes below 60, and seconds up to that of a leap second. -/
theorem clock_le (t : Instant) :
    t.clock.hour < 24 ∧ t.clock.minute < 60 ∧ t.clock.second ≤ 60
      ∧ t.clock.nanos < nanosPerSecond := by
  -- A leap second adds one to the second of a clock, and only to 59 at most.
  have nanos := t.nanos_lt
  simp only [clock, clockReading, secondOfDay, secondsPerDay, nanosPerSecond] at nanos ⊢
  omega

/-- The time of day is read back as what a clock shows. -/
theorem readClock?_timeText (t : Instant) {text : List Char} (ends : DigitsEnd text)
    (pointless : ∀ c ∈ text.head?, c ≠ '.') :
    TimeReader.readClock? (t.timeText ++ text) = some (t.clock, text) := by
  -- Each part is read from the front of what is left, and the colons end the numbers.
  obtain ⟨hour, minute, second, nanos⟩ := t.clock_le
  have written : t.timeText ++ text = paddedDigits 2 t.clock.hour ++ ':' ::
      (paddedDigits 2 t.clock.minute ++ ':' :: (paddedDigits 2 t.clock.second
        ++ (fractionText t.clock.nanos ++ text))) := by
    simp [timeText, clock]
  simp only [written, TimeReader.readClock?, Option.bind_eq_bind,
    TimeReader.readPair?_paddedDigits (Nat.lt_trans hour (by decide : 24 < 100)),
    TimeReader.readPair?_paddedDigits (Nat.lt_trans minute (by decide : 60 < 100)),
    TimeReader.readPair?_paddedDigits (Nat.lt_of_le_of_lt second (by decide : 60 < 100)),
    TimeReader.readMark?_cons ':' (by decide), Option.bind_some,
    TimeReader.readNanos?_fractionText nanos ends pointless]
  rfl

/-- The day of an instant is the one that its date names. -/
theorem dayNumber_date (t : Instant) :
    t.date.dayNumber = t.second / secondsPerDay + epochDay :=
  -- A date that is found by its number has that number.
  (Date.ofDayNumber_spec _).2

/-- The first second begins the first year, and the last second ends the last year. -/
theorem bounds_of_years :
    daysBeforeYear (-262143) = firstSecond / secondsPerDay + epochDay
      ∧ daysBeforeYear 262143 = lastSecond / secondsPerDay + epochDay + 1 := by
  -- Both are counted out.
  decide

/-- The year of an instant is one of those that instants have. -/
theorem year_mem (t : Instant) : -262143 ≤ t.date.year ∧ t.date.year ≤ 262142 := by
  change -262143 ≤ yearOfDay (t.second / secondsPerDay + epochDay)
    ∧ yearOfDay (t.second / secondsPerDay + epochDay) ≤ 262142
  obtain ⟨begun, lasting⟩ := yearOfDay_spec (t.second / secondsPerDay + epochDay)
  obtain ⟨first, last⟩ := bounds_of_years
  have notBefore : firstSecond / secondsPerDay ≤ t.second / secondsPerDay :=
    Int.ediv_le_ediv (by decide) t.second_mem.1
  have notAfter : t.second / secondsPerDay ≤ lastSecond / secondsPerDay :=
    Int.ediv_le_ediv (by decide) t.second_mem.2
  constructor
  · -- An earlier year is over before the first second.
    refine Int.not_lt.1 fun early => ?_
    have := daysBeforeYear_mono (Int.add_one_le_of_lt early)
    omega
  · -- A later year begins after the last second.
    refine Int.not_lt.1 fun late => ?_
    have := daysBeforeYear_mono (show (262143 : Int) ≤ yearOfDay _ from late)
    omega

/-- An instant is made again from its parts. -/
theorem make?_self (t : Instant) : make? t.second t.nanos = some t := by
  -- The parts of an instant are in range.
  rw [make?, dif_pos t.second_mem, dif_pos t.nanos_lt]

/--
The written form of an instant is its own: a leap second, if it lies in one, is the last second of
its minute, and shows as second 60.
-/
def IsLegible (t : Instant) : Prop :=
  t.nanos < nanosPerSecond ∨ t.second % 60 = 59

instance (t : Instant) : Decidable t.IsLegible :=
  inferInstanceAs (Decidable (t.nanos < nanosPerSecond ∨ t.second % 60 = 59))

/--
The instant as which an instant is read when it has been written.

A leap second within a minute is written like the second that follows it, and read as that second.
-/
def asRead (t : Instant) : Instant :=
  if legible : t.IsLegible then t
  else
    { second := t.second + 1
      nanos := t.nanos - nanosPerSecond
      second_mem := by
        -- The last second of all ends its minute, so another second follows this one.
        have bounds := t.second_mem
        simp only [IsLegible, firstSecond, lastSecond] at bounds legible ⊢
        omega
      nanos_lt := Nat.lt_of_le_of_lt (Nat.sub_le _ _) t.nanos_lt }

/-- A legible instant is read as it was. -/
theorem asRead_of_isLegible {t : Instant} (legible : t.IsLegible) : t.asRead = t :=
  -- Only instants that are not legible are moved.
  dif_pos legible

/-- What an instant is read as lies in a leap second only at the end of a minute. -/
theorem isLegible_asRead (t : Instant) : t.asRead.IsLegible := by
  unfold asRead
  split
  case isTrue legible => exact legible
  case isFalse illegible =>
    -- Of two seconds' nanoseconds, less than one second's are left.
    have nanos := t.nanos_lt
    refine .inl ?_
    simp only [nanosPerSecond] at nanos ⊢
    omega

/-- The instants that are read as they were are the legible ones. -/
theorem asRead_eq_self_iff {t : Instant} : t.asRead = t ↔ t.IsLegible :=
  -- What is read is always legible.
  ⟨fun same => same ▸ t.isLegible_asRead, asRead_of_isLegible⟩

/-- An instant has the written form of the one as which it is read. -/
theorem text_asRead (t : Instant) (form : TimeForm) : t.asRead.text form = t.text form := by
  unfold asRead
  split
  case isTrue => rfl
  case isFalse illegible =>
    -- The minute goes on, so the day, the hour and the minute are the same for both seconds.
    have nanos := t.nanos_lt
    simp only [IsLegible, nanosPerSecond] at illegible nanos
    have day : (t.second + 1) / secondsPerDay = t.second / secondsPerDay := by
      simp only [secondsPerDay]
      omega
    have hour : ((t.second + 1) % 86400).toNat / 3600 = (t.second % 86400).toNat / 3600 := by omega
    have minute : ((t.second + 1) % 86400).toNat / 60 % 60
        = (t.second % 86400).toNat / 60 % 60 := by omega
    have second : ((t.second + 1) % 86400).toNat % 60 + (t.nanos - 1000000000) / 1000000000
        = (t.second % 86400).toNat % 60 + t.nanos / 1000000000 := by omega
    have fraction : (t.nanos - 1000000000) % 1000000000 = t.nanos % 1000000000 := by omega
    simp only [text, timeText, clockReading, secondOfDay, date, day, nanosPerSecond]
    simp only [secondsPerDay, hour, minute, second, fraction]

/-- A legible instant is found again from its date and what a clock shows in universal time. -/
theorem ofReading?_clock {t : Instant} (legible : t.IsLegible) :
    ofReading? t.date t.clock.hour t.clock.minute t.clock.second t.clock.nanos 0 = some t := by
  obtain ⟨hour, minute, second, _⟩ := t.clock_le
  have valid : t.date.isValid := (Date.ofDayNumber_spec _).1
  have nanos := t.nanos_lt
  -- A second 60 stands for the second before it, with a second's worth of nanoseconds more.
  have sameSecond : (t.date.dayNumber - epochDay) * secondsPerDay
      + (t.clock.hour * 3600 + t.clock.minute * 60
        + (t.clock.second - t.clock.second / 60) : Nat) - 0 * 60 = t.second := by
    rw [dayNumber_date]
    simp only [clock, clockReading, secondOfDay, secondsPerDay, nanosPerSecond, IsLegible]
      at nanos legible ⊢
    omega
  have sameNanos : t.clock.nanos + t.clock.second / 60 * nanosPerSecond = t.nanos := by
    simp only [clock, clockReading, secondOfDay, secondsPerDay, nanosPerSecond, IsLegible]
      at nanos legible ⊢
    omega
  simp only [ofReading?]
  rw [if_pos ⟨valid, t.year_mem, hour, minute, second⟩, sameNanos, ← make?_self t]
  exact congrArg (make? · t.nanos) sameSecond

/-- A legible instant is read back from its written form. -/
theorem read?_text_of_isLegible {t : Instant} (legible : t.IsLegible) :
    read? (t.text .wire) = some t := by
  have form : t.text .wire = t.date.text ++ 'T' :: (t.timeText ++ ['Z']) := by
    simp [text, TimeForm.wire]
  -- Each part is read from the front of what is left, and the zone is the end of the text.
  obtain ⟨month, day⟩ := Date.le_of_isValid (Date.ofDayNumber_spec _).1
  have date : TimeReader.readDate? (t.date.text ++ 'T' :: (t.timeText ++ ['Z']))
      = some (t.date, 'T' :: (t.timeText ++ ['Z'])) :=
    TimeReader.readDate?_text (Nat.lt_of_le_of_lt month (by decide))
      (Nat.lt_of_le_of_lt day (by decide))
  have zone : TimeReader.readZone? (skipBlanks ['Z']) = some (0, []) := by decide
  simp only [read?, form, Option.bind_eq_bind, date, Option.bind_some, TimeReader.readSeparator?,
    true_or, if_true, readClock?_timeText t (digitsEnd_cons (c := 'Z') (by decide)) (by simp), zone,
    ofReading?_clock legible]
  rfl

/-- What is read from the written form of an instant. -/
theorem read?_text_wire (t : Instant) : read? (t.text .wire) = some t.asRead := by
  -- The instant as which it is read has the same written form, and is legible.
  rw [← text_asRead, read?_text_of_isLegible t.isLegible_asRead]

/-- Instants have the same written form exactly when they are read as the same. -/
theorem written_wire_eq_iff {a b : Instant} :
    a.written .wire = b.written .wire ↔ a.asRead = b.asRead := by
  constructor
  · intro same
    have texts : a.text .wire = b.text .wire := String.ofList_injective same
    have read := congrArg read? texts
    rwa [read?_text_wire, read?_text_wire, Option.some.injEq] at read
  · -- Both have the written form of the one as which they are read.
    intro same
    rw [written, written, ← text_asRead a, same, text_asRead]

end Instant

end Viewpoint
