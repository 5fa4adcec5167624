import Viewpoint.Text.Digits
import Viewpoint.Time.Instant

/-! Reading instants, with some freedom in digits, blanks and zones. -/

namespace Viewpoint

/-- The code points with the property White_Space, as closed intervals in ascending order. -/
def blankIntervals : List (Nat × Nat) :=
  [(0x09, 0x0D), (0x20, 0x20), (0x85, 0x85), (0xA0, 0xA0), (0x1680, 0x1680), (0x2000, 0x200A),
    (0x2028, 0x2029), (0x202F, 0x202F), (0x205F, 0x205F), (0x3000, 0x3000)]

/-- A character is blank when its code point lies in one of the White_Space intervals. -/
def isBlank (c : Char) : Bool :=
  blankIntervals.any fun (low, high) => low ≤ c.toNat && c.toNat ≤ high

/-- Drops the blanks that a text starts with. -/
def skipBlanks (text : List Char) : List Char :=
  text.dropWhile isBlank

namespace TimeReader

/-- Reads a number of one or two digits, which blanks may precede. -/
def readPair? (text : List Char) : Option (Nat × List Char) :=
  readDigits? 2 (skipBlanks text)

/-- Reads a mark, which blanks may precede. -/
def readMark? (mark : Char) (text : List Char) : Option (List Char) :=
  readChar? mark (skipBlanks text)

/-- Reads a year: up to four digits, or a sign and any number of digits. -/
def readYear? (text : List Char) : Option (Int × List Char) :=
  match skipBlanks text with
  | '+' :: digits => (readDigits? digits.length digits).map fun (n, rest) => ((n : Int), rest)
  | '-' :: digits => (readDigits? digits.length digits).map fun (n, rest) => (-(n : Int), rest)
  | digits => (readDigits? 4 digits).map fun (n, rest) => ((n : Int), rest)

/-- Reads a date: year, month and day, with a hyphen between them. -/
def readDate? (text : List Char) : Option (Date × List Char) := do
  let (year, text) ← readYear? text
  let text ← readMark? '-' text
  let (month, text) ← readPair? text
  let text ← readMark? '-' text
  let (day, text) ← readPair? text
  return (⟨year, month, day⟩, text)

/-- The nanoseconds that the first nine digits after a decimal point stand for. -/
def nanosOf (digits : List Char) : Nat :=
  let kept := digits.take 9
  digitsValue kept * Nat.pow 10 (9 - kept.length)

/-- Reads the part of a second, if there is a point; digits beyond the ninth are dropped. -/
def readNanos? : List Char → Option (Nat × List Char)
  | '.' :: text =>
    let digits := text.takeWhile Char.isDigit
    if digits.isEmpty then none else some (nanosOf digits, text.dropWhile Char.isDigit)
  | text => some (0, text)

/-- A reading of a clock: hour, minute, second and nanoseconds. -/
structure Clock where
  hour : Nat
  minute : Nat
  second : Nat
  nanos : Nat
  deriving DecidableEq, Repr

/-- Reads a time of day: hour, minute and second, with a colon between them, and a fraction. -/
def readClock? (text : List Char) : Option (Clock × List Char) := do
  let (hour, text) ← readPair? text
  let text ← readMark? ':' text
  let (minute, text) ← readPair? text
  let text ← readMark? ':' text
  let (second, text) ← readPair? text
  let (nanos, text) ← readNanos? text
  return (⟨hour, minute, second, nanos⟩, text)

/-- Reads exactly two digits. -/
def readTwo? : List Char → Option (Nat × List Char)
  | a :: b :: text => if a.isDigit && b.isDigit then some (digitsValue [a, b], text) else none
  | _ => none

/-- Reads hours and minutes of an offset; colons and blanks between them do not matter. -/
def readOffset? (text : List Char) : Option (Nat × List Char) := do
  let (hours, text) ← readTwo? text
  let (minutes, text) ← readTwo? (text.dropWhile fun c => c == ':' || isBlank c)
  if hours < 24 ∧ minutes < 60 then return (hours * 60 + minutes, text) else none

/-- The three letters name universal time, in either case. -/
def namesUniversal (a b c : Char) : Bool :=
  [a, b, c].map Char.toUpper == ['U', 'T', 'C']

/-- Reads a zone as the minutes that its clocks are ahead of universal time. -/
def readZone? (text : List Char) : Option (Int × List Char) :=
  let signed (text : List Char) : Option (Int × List Char) :=
    match text with
    | 'Z' :: text => some (0, text)
    | 'z' :: text => some (0, text)
    | '+' :: text => (readOffset? text).map fun (n, rest) => ((n : Int), rest)
    | '-' :: text => (readOffset? text).map fun (n, rest) => (-(n : Int), rest)
    | '\u2212' :: text => (readOffset? text).map fun (n, rest) => (-(n : Int), rest)
    | _ => none
  match text with
  | a :: b :: c :: rest => if namesUniversal a b c then some (0, rest) else signed text
  | _ => signed text

/-- The character between date and time in a text that has a zone. -/
def readSeparator? : List Char → Option (List Char)
  | c :: text => if c = 'T' ∨ c = 't' ∨ c = ' ' then some text else none
  | [] => none

/-- Nothing but blanks is left. -/
def readEnd? (text : List Char) : Option Unit :=
  if text.all isBlank then some () else none

end TimeReader

open TimeReader

/-- Reads an instant with its zone. -/
def Instant.read? (text : List Char) : Option Instant := do
  let (date, text) ← readDate? text
  let text ← readSeparator? text
  let (clock, text) ← readClock? text
  let (ahead, text) ← readZone? (skipBlanks text)
  readEnd? text
  ofReading? date clock.hour clock.minute clock.second clock.nanos ahead

/-- A clock reading without a zone, held as the instant that it would be in universal time. -/
structure LocalTime where
  instant : Instant
  deriving DecidableEq, Repr

/-- Reads a clock reading without a zone. -/
def LocalTime.read? (text : List Char) : Option LocalTime := do
  let (date, text) ← readDate? text
  let text ← readMark? 'T' text
  let (clock, text) ← readClock? text
  readEnd? text
  let instant ← Instant.ofReading? date clock.hour clock.minute clock.second clock.nanos 0
  return ⟨instant⟩

end Viewpoint
