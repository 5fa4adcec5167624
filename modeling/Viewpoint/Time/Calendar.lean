/-! The Gregorian calendar, extended without end in both directions. -/

namespace Viewpoint

/-- A day of the calendar; the year before year 1 is year 0. -/
structure Date where
  year : Int
  month : Nat
  day : Nat
  deriving DecidableEq, Repr

/-- Every fourth year is a leap year, but of the centuries only every fourth. -/
def isLeapYear (year : Int) : Bool :=
  year % 4 == 0 && (year % 100 != 0 || year % 400 == 0)

/-- The lengths of the months of a year. -/
def monthLengths (leap : Bool) : List Nat :=
  [31, if leap then 29 else 28, 31, 30, 31, 30, 31, 31, 30, 31, 30, 31]

/-- The number of days from the first day of year 1 to the first day of the given year. -/
def daysBeforeYear (year : Int) : Int :=
  let years := year - 1
  365 * years + years / 4 - years / 100 + years / 400

/--
The year that holds the day of the given number, where the first day of year 1 has number 0.

The mean length of a year gives it up to one year, and the neighbours decide.
-/
def yearOfDay (day : Int) : Int :=
  let guess := day * 400 / 146097 + 1
  if day < daysBeforeYear guess then guess - 1
  else if daysBeforeYear (guess + 1) ≤ day then guess + 1
  else guess

/-- Skips months while the day lies beyond them: how many were skipped, and the day left. -/
def skipMonths : List Nat → Nat → Nat × Nat
  | [], day => (0, day)
  | length :: lengths, day =>
    if day < length then (0, day)
    else
      let (months, left) := skipMonths lengths (day - length)
      (months + 1, left)

namespace Date

/-- The date names a day: its month exists, and the month has the day. -/
def isValid (date : Date) : Bool :=
  1 ≤ date.month && 1 ≤ date.day &&
    match (monthLengths (isLeapYear date.year))[date.month - 1]? with
    | some length => date.day ≤ length
    | none => false

/-- The number of a day, where the first day of year 1 has number 0. -/
def dayNumber (date : Date) : Int :=
  daysBeforeYear date.year
    + (((monthLengths (isLeapYear date.year)).take (date.month - 1)).foldl Nat.add 0 : Nat)
    + date.day - 1

/-- The day with the given number. -/
def ofDayNumber (day : Int) : Date :=
  let year := yearOfDay day
  let (months, left) :=
    skipMonths (monthLengths (isLeapYear year)) (day - daysBeforeYear year).toNat
  ⟨year, months + 1, left + 1⟩

end Date

end Viewpoint
