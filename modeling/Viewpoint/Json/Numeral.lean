import Viewpoint.Text.Digits

/-! Numbers as JSON spells them. -/

namespace Viewpoint

/--
A number as JSON spells it.

The whole part never has a leading zero, so its value is enough; the digits after the point keep
their zeros, and a numeral without them has no point at all.
-/
structure Numeral where
  negative : Bool
  whole : Nat
  fraction : List (Fin 10)
  exponent : Option Int
  deriving DecidableEq, Repr, Inhabited

namespace Numeral

/-- The numeral of a natural number. -/
def ofNat (n : Nat) : Numeral :=
  ⟨false, n, [], none⟩

/-- The numeral of an integer. -/
def ofInt (n : Int) : Numeral :=
  ⟨n < 0, n.natAbs, [], none⟩

/-- The decimal digit that a character stands for. -/
def digitOf (c : Char) : Fin 10 :=
  Fin.ofNat 10 (c.toNat - '0'.toNat)

/-- The digit zero. -/
def zeroDigit : Fin 10 :=
  digitOf '0'

/-- Writes the exponent of a numeral, always with its sign. -/
def exponentText (exponent : Int) : List Char :=
  'e' :: (if exponent < 0 then '-' else '+') :: Nat.toDigits 10 exponent.natAbs

/-- Writes a numeral. -/
def text (n : Numeral) : List Char :=
  (if n.negative then ['-'] else []) ++ Nat.toDigits 10 n.whole
    ++ (if n.fraction.isEmpty then [] else '.' :: n.fraction.map fun d => Nat.digitChar d.val)
    ++ (match n.exponent with
        | none => []
        | some exponent => exponentText exponent)

/-- Reads a sign, which only a minus shows. -/
def readSign : List Char → Bool × List Char
  | '-' :: rest => (true, rest)
  | rest => (false, rest)

/-- Reads the whole part: digits that start with a zero only if they are one zero. -/
def readWhole? (input : List Char) : Option (Nat × List Char) :=
  let digits := input.takeWhile Char.isDigit
  if digits.isEmpty || (digits.head? == some '0' && digits.length != 1) then none
  else some (digitsValue digits, input.dropWhile Char.isDigit)

/-- Reads the part after the point, if there is a point; it has at least one digit. -/
def readFraction? : List Char → Option (List (Fin 10) × List Char)
  | '.' :: rest =>
    let digits := rest.takeWhile Char.isDigit
    if digits.isEmpty then none
    else some (digits.map digitOf, rest.dropWhile Char.isDigit)
  | rest => some ([], rest)

/-- Reads the magnitude of an exponent, up to the end of the input. -/
def readMagnitude? (input : List Char) : Option Nat :=
  if input.isEmpty || !input.all Char.isDigit then none else some (digitsValue input)

/-- Reads the exponent, which ends the numeral if it is there. -/
def readExponent? : List Char → Option (Option Int)
  | [] => some none
  | mark :: rest =>
    if mark = 'e' ∨ mark = 'E' then
      match rest with
      | '-' :: digits => (readMagnitude? digits).map fun n => some (-(n : Int))
      | '+' :: digits => (readMagnitude? digits).map fun n => some (n : Int)
      | digits => (readMagnitude? digits).map fun n => some (n : Int)
    else none

/-- Reads a numeral that fills the whole input. -/
def read? (input : List Char) : Option Numeral := do
  let (negative, input) := readSign input
  let (whole, input) ← readWhole? input
  let (fraction, input) ← readFraction? input
  let exponent ← readExponent? input
  return ⟨negative, whole, fraction, exponent⟩

/-- A numeral names an integer only when it has neither point nor exponent. -/
def isInteger (n : Numeral) : Bool :=
  n.fraction.isEmpty && n.exponent.isNone

/-- The natural number below the limit that a numeral without any sign names. -/
def natBelow? (limit : Nat) (n : Numeral) : Option Nat :=
  if n.isInteger && !n.negative && n.whole < limit then some n.whole else none

/-- The integer of 64 bits that a numeral names; a negative zero names none. -/
def int64? (n : Numeral) : Option Int :=
  if !n.isInteger then none
  else if n.negative then
    if 0 < n.whole ∧ n.whole ≤ Nat.pow 2 63 then some (-(n.whole : Int)) else none
  else if n.whole < Nat.pow 2 63 then some n.whole else none

end Numeral

end Viewpoint
