import Viewpoint.Time.Calendar

/-! Instants to the nanosecond, with leap seconds, and the spans between them. -/

namespace Viewpoint

/-- The number of nanoseconds in a second. -/
def nanosPerSecond : Nat := 1000000000

/-- The number of seconds in a day. -/
def secondsPerDay : Int := 86400

/-- The number of the day on which seconds begin to count. -/
def epochDay : Int := (Date.mk 1970 1 1).dayNumber

/-- The first second of year -262143. -/
def firstSecond : Int := -8334601228800

/-- The last second of year 262142. -/
def lastSecond : Int := 8210266876799

/--
An instant: seconds since the start of 1970, and nanoseconds within the second.

A leap second has no number of its own: its nanoseconds go on from those of the second before it,
which may be any. Only after the last second of a minute does the written form show it.
-/
structure Instant where
  second : Int
  nanos : Nat
  second_mem : firstSecond ≤ second ∧ second ≤ lastSecond
  nanos_lt : nanos < 2 * nanosPerSecond
  deriving DecidableEq, Repr

namespace Instant

/-- The instant with the given parts, if there is one. -/
def make? (second : Int) (nanos : Nat) : Option Instant :=
  if second_mem : firstSecond ≤ second ∧ second ≤ lastSecond then
    if nanos_lt : nanos < 2 * nanosPerSecond then some ⟨second, nanos, second_mem, nanos_lt⟩
    else none
  else none

/-- The start of a second is within bounds. -/
theorem zero_lt_twoSeconds : 0 < 2 * nanosPerSecond := by decide

/-- The first instant of 1970. -/
def epoch : Instant :=
  ⟨0, 0, by decide, zero_lt_twoSeconds⟩

/-- An instant lies within a leap second. -/
def inLeapSecond (t : Instant) : Bool :=
  nanosPerSecond ≤ t.nanos

/-- One instant comes before another. -/
def before (a b : Instant) : Prop :=
  a.second < b.second ∨ (a.second = b.second ∧ a.nanos < b.nanos)

instance : LT Instant where
  lt := before

instance : LE Instant where
  le a b := ¬ b < a

instance (a b : Instant) : Decidable (a < b) :=
  inferInstanceAs (Decidable (a.second < b.second ∨ (a.second = b.second ∧ a.nanos < b.nanos)))

instance (a b : Instant) : Decidable (a ≤ b) :=
  inferInstanceAs (Decidable (¬ b < a))

/-- The start of the second that holds an instant; a leap second is a second of its own. -/
def truncated (t : Instant) : Instant where
  second := t.second
  nanos := t.nanos / nanosPerSecond * nanosPerSecond
  second_mem := t.second_mem
  nanos_lt := by
    have := t.nanos_lt
    simp only [nanosPerSecond] at this ⊢
    omega

/--
The instant that many seconds later, or earlier if the number is negative.

Leaving a leap second forwards costs nothing, since the next second begins right after it; leaving
it backwards starts from that next second.
-/
def addSeconds? (t : Instant) (seconds : Int) : Option Instant :=
  if !t.inLeapSecond || seconds = 0 then make? (t.second + seconds) t.nanos
  else if 0 < seconds then make? (t.second + seconds) (t.nanos - nanosPerSecond)
  else make? (t.second + 1 + seconds) (t.nanos - nanosPerSecond)

/-- The second of its day that an instant lies in. -/
def secondOfDay (t : Instant) : Int :=
  t.second % secondsPerDay

/--
The nanoseconds from one instant to another.

A leap second counts when the later time of day is reached from it.
-/
def nanosSince (later earlier : Instant) : Int :=
  let leap : Int :=
    if earlier.secondOfDay < later.secondOfDay ∧ earlier.inLeapSecond then 1
    else if later.secondOfDay < earlier.secondOfDay ∧ later.inLeapSecond then -1
    else 0
  (later.second - earlier.second + leap) * nanosPerSecond + (later.nanos - earlier.nanos)

/-- The day that holds an instant. -/
def date (t : Instant) : Date :=
  .ofDayNumber (t.second / secondsPerDay + epochDay)

/--
The reading of a clock at an instant: hour, minute and second.

In a leap second the second is one more than before it, and so 60 at the end of a minute.
-/
def clockReading (t : Instant) : Nat × Nat × Nat :=
  let second := t.secondOfDay.toNat
  (second / 3600, second / 60 % 60, second % 60 + t.nanos / nanosPerSecond)

/--
The instant at which a clock shows the given date and time, the given minutes ahead of universal
time.

A second 60 is a leap second, which any minute may have.
-/
def ofReading? (date : Date) (hour minute second nanos : Nat) (minutesAhead : Int) :
    Option Instant :=
  let inYears := -262143 ≤ date.year ∧ date.year ≤ 262142
  if date.isValid ∧ inYears ∧ hour < 24 ∧ minute < 60 ∧ second ≤ 60 then
    let leap := second / 60
    let day := (date.dayNumber - epochDay) * secondsPerDay
    let time := hour * 3600 + minute * 60 + (second - leap)
    make? (day + time - minutesAhead * 60) (nanos + leap * nanosPerSecond)
  else none

end Instant

end Viewpoint
