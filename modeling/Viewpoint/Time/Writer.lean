import Viewpoint.Text.Digits
import Viewpoint.Time.Instant

/-! The written forms of instants, all in universal time. -/

namespace Viewpoint

/-- A form in which instants are written: what stands between date and time, and what ends it. -/
structure TimeForm where
  separator : Char
  zone : List Char
  deriving DecidableEq, Repr

namespace TimeForm

/-- The form used in JSON and in queries. -/
def wire : TimeForm :=
  ⟨'T', ['Z']⟩

/-- The form used in messages. -/
def message : TimeForm :=
  ⟨' ', " UTC".toList⟩

/-- The form used in tables. -/
def table : TimeForm :=
  ⟨'T', "+00:00".toList⟩

/-- The form of a reading without a zone. -/
def zoneless : TimeForm :=
  ⟨'T', []⟩

end TimeForm

/-- A year has four digits or more, and a sign when it is not from 0 to 9999. -/
def yearText (year : Int) : List Char :=
  let sign := if year < 0 then ['-'] else if 9999 < year then ['+'] else []
  sign ++ paddedDigits 4 year.natAbs

/-- The part of a second, with as few groups of three digits as are exact. -/
def fractionText (nanos : Nat) : List Char :=
  if nanos = 0 then []
  else if nanos % 1000000 = 0 then '.' :: paddedDigits 3 (nanos / 1000000)
  else if nanos % 1000 = 0 then '.' :: paddedDigits 6 (nanos / 1000)
  else '.' :: paddedDigits 9 nanos

/-- Writes a date. -/
def Date.text (date : Date) : List Char :=
  yearText date.year ++ '-' :: paddedDigits 2 date.month ++ '-' :: paddedDigits 2 date.day

namespace Instant

/-- Writes the time of day of an instant. -/
def timeText (t : Instant) : List Char :=
  let (hour, minute, second) := t.clockReading
  paddedDigits 2 hour ++ ':' :: paddedDigits 2 minute ++ ':' :: paddedDigits 2 second
    ++ fractionText (t.nanos % nanosPerSecond)

/-- Writes an instant in the given form. -/
def text (form : TimeForm) (t : Instant) : List Char :=
  t.date.text ++ form.separator :: t.timeText ++ form.zone

/-- Writes an instant in the given form, as a string. -/
def written (form : TimeForm) (t : Instant) : String :=
  String.ofList (t.text form)

end Instant

end Viewpoint
