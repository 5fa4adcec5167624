import Viewpoint.Json.Numeral

/-! Finite binary floating-point numbers of 64 bits, with exact rounding. -/

namespace Viewpoint

/-- The least exponent of a 64-bit number whose significand is an integer. -/
def leastExponent : Int := -1074

/-- The greatest exponent of a 64-bit number whose significand is an integer. -/
def greatestExponent : Int := 971

/--
A significand and an exponent are canonical when no other pair has their value.

All significands below 2 ^ 53 are allowed at the least exponent, where numbers are subnormal.
-/
def Canonical (significand : Nat) (exponent : Int) : Prop :=
  significand < Nat.pow 2 53 ∧ leastExponent ≤ exponent ∧ exponent ≤ greatestExponent ∧
    (exponent = leastExponent ∨ Nat.pow 2 52 ≤ significand)

instance (significand : Nat) (exponent : Int) : Decidable (Canonical significand exponent) := by
  unfold Canonical
  infer_instance

/-- A finite 64-bit number: a sign, and a significand times a power of two. -/
structure Binary64 where
  negative : Bool
  significand : Nat
  exponent : Int
  canonical : Canonical significand exponent
  deriving DecidableEq, Repr

/-- A ratio of natural numbers. -/
structure Ratio where
  numerator : Nat
  denominator : Nat
  deriving DecidableEq, Repr

namespace Ratio

/-- The ratio that is a natural number. -/
def ofNat (n : Nat) : Ratio :=
  ⟨n, 1⟩

/-- The product of two ratios. -/
def times (a b : Ratio) : Ratio :=
  ⟨a.numerator * b.numerator, a.denominator * b.denominator⟩

/-- The quotient of two ratios. -/
def dividedBy (a b : Ratio) : Ratio :=
  ⟨a.numerator * b.denominator, a.denominator * b.numerator⟩

/-- The ratio times a power of an integer base. -/
def scaled (a : Ratio) (base : Nat) (exponent : Int) : Ratio :=
  if exponent < 0 then ⟨a.numerator, a.denominator * Nat.pow base exponent.natAbs⟩
  else ⟨a.numerator * Nat.pow base exponent.natAbs, a.denominator⟩

/-- The order of two ratios. -/
def le (a b : Ratio) : Bool :=
  a.numerator * b.denominator ≤ b.numerator * a.denominator

/-- The greatest natural number that is not above the ratio. -/
def floor (a : Ratio) : Nat :=
  a.numerator / a.denominator

/-- The nearest natural number, where a half goes to the even neighbour. -/
def nearest (a : Ratio) : Nat :=
  let low := a.floor
  let twice := 2 * (a.numerator % a.denominator)
  if twice < a.denominator then low
  else if a.denominator < twice then low + 1
  else low + low % 2

end Ratio

namespace Binary64

/-- The number with the given parts; there is none beyond the greatest exponent. -/
def make? (negative : Bool) (significand : Nat) (exponent : Int) : Option Binary64 :=
  if canonical : Canonical significand exponent then
    some ⟨negative, significand, exponent, canonical⟩
  else none

/-- The number zero, of either sign. -/
def zero (negative : Bool) : Binary64 :=
  ⟨negative, 0, leastExponent, by decide⟩

/-- The exponent at which a ratio has a significand of 53 bits, or the least exponent. -/
def exponentFor (a : Ratio) : Int :=
  -- The two logarithms locate the leading bit up to one place.
  let guess := max leastExponent
    ((Nat.log2 a.numerator : Int) - (Nat.log2 a.denominator : Int) - 53)
  if Nat.pow 2 53 ≤ (a.scaled 2 (-guess)).floor then guess + 1 else guess

/-- The number nearest to a ratio, where a half goes to the even significand. -/
def round? (negative : Bool) (a : Ratio) : Option Binary64 :=
  if a.numerator = 0 then some (zero negative)
  else
    let exponent := exponentFor a
    let significand := (a.scaled 2 (-exponent)).nearest
    -- A carry out of 53 bits is a power of two, which the next exponent holds as well.
    if significand = Nat.pow 2 53 then make? negative (Nat.pow 2 52) (exponent + 1)
    else make? negative significand exponent

/-- The distance of a number from zero. -/
def magnitude (x : Binary64) : Ratio :=
  (Ratio.ofNat x.significand).scaled 2 x.exponent

/-- A number is zero, whatever its sign. -/
def isZero (x : Binary64) : Bool :=
  x.significand == 0

/-- The number nearest to a power of ten that a 64-bit number can hold. -/
def tenToThe? (exponent : Nat) : Option Binary64 :=
  round? false (.ofNat (Nat.pow 10 exponent))

/-- The greatest power of ten that a 64-bit number can hold. -/
def greatestTen : Nat := 308

/-- Divides by a power of ten, one rounded power at a time while the power is too great. -/
def divideByTens? (x : Binary64) (exponent : Nat) : Option Binary64 :=
  if x.isZero then some x
  else if exponent ≤ greatestTen then do
    round? x.negative (x.magnitude.dividedBy (← tenToThe? exponent).magnitude)
  else do
    let smaller ← round? x.negative (x.magnitude.dividedBy (← tenToThe? greatestTen).magnitude)
    divideByTens? smaller (exponent - greatestTen)
  termination_by exponent
  decreasing_by simp_all [greatestTen]; omega

/-- Multiplies by a power of ten, which has to be one that a 64-bit number can hold. -/
def timesTens? (x : Binary64) (exponent : Nat) : Option Binary64 :=
  if x.isZero then some x
  else if exponent ≤ greatestTen then do
    round? x.negative (x.magnitude.times (← tenToThe? exponent).magnitude)
  else none

end Binary64

namespace Numeral

/-- Digits collected into a significand of 64 bits, and the power of ten that it lacks. -/
structure Collected where
  significand : Nat
  exponent : Int
  full : Bool
  deriving DecidableEq, Repr

/-- One more digit fits while the significand stays below 2 ^ 64. -/
def Collected.fits (c : Collected) (digit : Nat) : Bool :=
  !c.full && c.significand * 10 + digit < Nat.pow 2 64

/-- Collects a digit before the point; a digit that no longer fits only raises the power. -/
def Collected.pushWhole (c : Collected) (digit : Nat) : Collected :=
  if c.fits digit then { c with significand := c.significand * 10 + digit }
  else { c with exponent := c.exponent + 1, full := true }

/-- Collects a digit after the point; a digit that no longer fits is dropped. -/
def Collected.pushFraction (c : Collected) (digit : Nat) : Collected :=
  if c.fits digit then
    { c with significand := c.significand * 10 + digit, exponent := c.exponent - 1 }
  else { c with full := true }

/-- Collects the digits of a numeral and adds its exponent. -/
def collected (n : Numeral) : Collected :=
  let whole := ((Nat.toDigits 10 n.whole).map fun c => (digitOf c).val).foldl
    Collected.pushWhole ⟨0, 0, false⟩
  let all := n.fraction.foldl (fun c d => c.pushFraction d.val) { whole with full := false }
  { all with exponent := all.exponent + n.exponent.getD 0 }

/--
The 64-bit number that a numeral stands for, if it is not too great.

The significand is rounded first and then scaled once by a rounded power of ten, so the result can
be off the nearest number by its last bits.
-/
def binary64? (n : Numeral) : Option Binary64 := do
  let parts := n.collected
  let significand ← Binary64.round? n.negative (.ofNat parts.significand)
  if parts.exponent < 0 then significand.divideByTens? parts.exponent.natAbs
  else significand.timesTens? parts.exponent.natAbs

end Numeral

end Viewpoint
