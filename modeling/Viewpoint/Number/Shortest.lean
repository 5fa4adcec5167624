import Viewpoint.Number.Binary64

/-! The shortest decimal that reads back as a given 64-bit number. -/

namespace Viewpoint.Binary64

/-- A positive decimal: a significand times a power of ten. -/
structure Decimal where
  significand : Nat
  exponent : Int
  deriving DecidableEq, Repr

/-- The value of a decimal. -/
def Decimal.value (d : Decimal) : Ratio :=
  (Ratio.ofNat d.significand).scaled 10 d.exponent

/-- The lower end of the ratios that round to a number other than zero. -/
def lowerEnd (x : Binary64) : Ratio :=
  -- The gap below a power of two is half as wide, except at the least exponent.
  if x.significand = Nat.pow 2 52 ∧ x.exponent ≠ leastExponent then
    (Ratio.ofNat (4 * x.significand - 1)).scaled 2 (x.exponent - 2)
  else (Ratio.ofNat (2 * x.significand - 1)).scaled 2 (x.exponent - 1)

/-- The upper end of the ratios that round to a number. -/
def upperEnd (x : Binary64) : Ratio :=
  (Ratio.ofNat (2 * x.significand + 1)).scaled 2 (x.exponent - 1)

/-- A ratio rounds to a number when it lies between its ends, which count for even significands. -/
def rounds (x : Binary64) (a : Ratio) : Bool :=
  if x.significand % 2 = 0 then x.lowerEnd.le a && a.le x.upperEnd
  else !a.le x.lowerEnd && !x.upperEnd.le a

/-- The power of ten of the leading digit of a positive ratio. -/
def leadingPower (a : Ratio) : Int :=
  let whole := a.floor
  if 0 < whole then (Nat.toDigits 10 whole).length - 1
  else
    let steps := (List.range 400).find? fun (k : Nat) => 0 < (a.scaled 10 k).floor
    Int.negOfNat (steps.getD 400)

/-- The decimals with the given last place that are next to a ratio, the nearer one first. -/
def neighbours (a : Ratio) (exponent : Int) : List Decimal :=
  let scaled := a.scaled 10 (-exponent)
  let low := scaled.floor
  if scaled.nearest = low then [⟨low, exponent⟩, ⟨low + 1, exponent⟩]
  else [⟨low + 1, exponent⟩, ⟨low, exponent⟩]

/-- The shortest decimal that rounds to a number other than zero, and of those the nearest. -/
def shortest (x : Binary64) : Decimal :=
  let top := leadingPower x.magnitude
  let candidates := (List.range 17).flatMap fun (n : Nat) => neighbours x.magnitude (top - n)
  (candidates.find? fun d => x.rounds d.value).getD ⟨0, 0⟩

/-- The decimal digits of a number. -/
def digitsOf (n : Nat) : List (Fin 10) :=
  (Nat.toDigits 10 n).map Numeral.digitOf

/-- Spells digits with a point after the given count of them, and a power of ten if any. -/
def spelled (negative : Bool) (digits : List (Fin 10)) (before : Nat)
    (exponent : Option Int) : Numeral :=
  let whole := (digits.take before).foldl (fun n d => 10 * n + d.val) 0
  ⟨negative, whole, digits.drop before, exponent⟩

/--
The numeral of a 64-bit number: the digits of its shortest decimal.

Numbers from 10 ^ -5 up to 10 ^ 16 are spelled without an exponent and always have a point.
-/
def numeral (x : Binary64) : Numeral :=
  if x.isZero then ⟨x.negative, 0, [Numeral.zeroDigit], none⟩
  else
    let decimal := x.shortest
    -- Zeros at the end carry no information, so they move to the exponent.
    let all := digitsOf decimal.significand
    let digits := (all.reverse.dropWhile (· = Numeral.zeroDigit)).reverse
    let leading := decimal.exponent + all.length - 1
    if leading < -5 ∨ 16 ≤ leading then spelled x.negative digits 1 (some leading)
    else if leading < 0 then
      spelled x.negative (List.replicate leading.natAbs Numeral.zeroDigit ++ digits) 1 none
    else
      let before := leading.natAbs + 1
      let filled := digits ++ List.replicate (before + 1 - digits.length) Numeral.zeroDigit
      spelled x.negative filled before none

end Viewpoint.Binary64
