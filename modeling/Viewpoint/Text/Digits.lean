/-! Decimal digits: writing numbers with leading zeros and reading runs of digits. -/

namespace Viewpoint

/-- Writes a number in decimal, with zeros in front until it is as wide as asked. -/
def paddedDigits (width n : Nat) : List Char :=
  let digits := Nat.toDigits 10 n
  List.replicate (width - digits.length) '0' ++ digits

/-- The two hexadecimal digits, in lower case, of a number below 256. -/
def hexPair (n : Nat) : List Char :=
  [Nat.digitChar (n / 16 % 16), Nat.digitChar (n % 16)]

/-- The number that a run of decimal digits names. -/
def digitsValue (digits : List Char) : Nat :=
  Nat.ofDigitChars 10 digits 0

/--
Reads a number of at least one digit and at most the given count of digits.

The digits after those, and everything else, are left unread.
-/
def readDigits? (most : Nat) (text : List Char) : Option (Nat × List Char) :=
  let digits := (text.takeWhile Char.isDigit).take most
  if digits.isEmpty then none else some (digitsValue digits, text.drop digits.length)

/-- Reads the given character, which must come next. -/
def readChar? (expected : Char) : List Char → Option (List Char)
  | [] => none
  | c :: rest => if c = expected then some rest else none

end Viewpoint
