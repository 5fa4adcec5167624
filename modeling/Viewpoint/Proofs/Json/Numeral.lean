import Viewpoint.Json.Numeral
import Viewpoint.Proofs.Text.Digits

/-! Written numerals read back as themselves. -/

namespace Viewpoint.Numeral

/-- The digit of a written digit is the digit itself. -/
theorem digitOf_digitChar (d : Fin 10) : digitOf (Nat.digitChar d.val) = d := by
  -- There are ten digits.
  revert d
  decide

/-- A written digit is a digit. -/
theorem isDigit_digitChar (d : Fin 10) : (Nat.digitChar d.val).isDigit := by
  -- There are ten digits, each of which is checked.
  revert d
  decide

variable {n : Nat} {digits : List (Fin 10)} {rest : List Char}

/-- The sign is read back, because a number that is written starts with a digit. -/
theorem readSign_text (negative : Bool) :
    readSign ((if negative then ['-'] else []) ++ (Nat.toDigits 10 n ++ rest))
      = (negative, Nat.toDigits 10 n ++ rest) := by
  -- Without a sign, the first digit has to be told from one.
  cases negative with
  | true => rfl
  | false =>
    obtain ⟨first, others, front⟩ : ∃ first others, Nat.toDigits 10 n = first :: others :=
      List.exists_cons_of_ne_nil Nat.toDigits_ne_nil
    have digit : first.isDigit := isDigit_toDigits first (front ▸ List.mem_cons_self)
    have plain : first ≠ '-' := by
      rintro rfl
      exact absurd digit (by decide)
    rw [front, if_neg (by decide), List.nil_append, List.cons_append, readSign]
    rintro _ ⟨⟩
    exact plain rfl

/-- The whole part is read back, because it has no zero in front. -/
theorem readWhole?_toDigits (ends : DigitsEnd rest) :
    readWhole? (Nat.toDigits 10 n ++ rest) = some (n, rest) := by
  -- A number of several digits starts with none that is zero, and zero is a single digit.
  have canonical : ¬ (Nat.toDigits 10 n = []
      ∨ (Nat.toDigits 10 n).head? = some '0' ∧ (Nat.toDigits 10 n).length ≠ 1) := by
    rintro (none | ⟨zero, many⟩)
    · exact Nat.toDigits_ne_nil none
    · by_cases large : 10 ≤ n
      · exact head?_toDigits large zero
      · rw [Nat.toDigits_of_lt_base (by omega)] at many
        exact many rfl
  simp only [readWhole?, takeWhile_digits isDigit_toDigits ends,
    dropWhile_digits isDigit_toDigits ends, digitsValue_toDigits]
  simpa using canonical

/-- The text of the digits after the point, with the point. -/
def fractionPart (digits : List (Fin 10)) : List Char :=
  if digits.isEmpty then [] else '.' :: digits.map fun d => Nat.digitChar d.val

/-- The text of an exponent that may be missing. -/
def exponentPart : Option Int → List Char
  | none => []
  | some exponent => exponentText exponent

/-- A numeral is its sign, its whole part, its fraction and its exponent. -/
theorem text_eq (negative : Bool) (whole : Nat) (fraction : List (Fin 10))
    (exponent : Option Int) :
    text ⟨negative, whole, fraction, exponent⟩ = (if negative then ['-'] else [])
      ++ (Nat.toDigits 10 whole ++ (fractionPart fraction ++ exponentPart exponent)) := by
  -- Parts that are missing are written as nothing.
  cases exponent <;> simp [text, fractionPart, exponentPart]

/-- Written digits are digits. -/
theorem isDigit_digitChars : ∀ c ∈ digits.map fun d => Nat.digitChar d.val, c.isDigit := by
  -- Each of them is the character of a digit.
  intro c here
  obtain ⟨d, _, rfl⟩ := List.mem_map.1 here
  exact isDigit_digitChar d

/-- The digits after the point are read back. -/
theorem readFraction?_fractionPart (ends : DigitsEnd rest)
    (pointless : ∀ c ∈ rest.head?, c ≠ '.') :
    readFraction? (fractionPart digits ++ rest) = some (digits, rest) := by
  -- Without digits there is no point either, and what follows must not look like one.
  cases digits with
  | nil =>
    cases rest with
    | nil => rfl
    | cons c rest =>
      rw [fractionPart, List.isEmpty_nil, if_pos rfl, List.nil_append, readFraction?]
      rintro _ ⟨⟩
      exact pointless '.' rfl rfl
  | cons d digits =>
    rw [fractionPart, List.isEmpty_cons, if_neg (by decide), List.cons_append, readFraction?,
      takeWhile_digits isDigit_digitChars ends, dropWhile_digits isDigit_digitChars ends,
      List.map_map]
    simp [Function.comp_def, digitOf_digitChar]

/-- The magnitude of an exponent is read back. -/
theorem readMagnitude?_toDigits : readMagnitude? (Nat.toDigits 10 n) = some n := by
  -- There is a digit, and nothing but digits.
  simp [readMagnitude?, Nat.toDigits_ne_nil, digitsValue_toDigits,
    List.all_eq_true.2 isDigit_toDigits]

/-- The exponent is read back with its sign. -/
theorem readExponent?_exponentPart (exponent : Option Int) :
    readExponent? (exponentPart exponent) = some exponent := by
  -- The sign is always written, and tells on which side of zero the magnitude lies.
  cases exponent with
  | none => rfl
  | some exponent =>
    simp only [exponentPart, exponentText]
    split
    case isTrue below =>
      have value : -(exponent.natAbs : Int) = exponent := by omega
      simp only [readExponent?, true_or, if_true, readMagnitude?_toDigits]
      exact congrArg (fun n : Int => some (some n)) value
    case isFalse above =>
      have value : (exponent.natAbs : Int) = exponent := by omega
      simp only [readExponent?, true_or, if_true, readMagnitude?_toDigits]
      exact congrArg (fun n : Int => some (some n)) value

/-- An exponent starts with a letter, so that it continues neither digits nor a point. -/
theorem head?_exponentPart (exponent : Option Int) :
    ∀ c ∈ (exponentPart exponent).head?, c = 'e' := by
  -- A missing exponent has no first character.
  cases exponent with
  | none => simp [exponentPart]
  | some exponent => simp [exponentPart, exponentText]

/-- A numeral is read back from its text. -/
theorem read?_text (numeral : Numeral) : read? numeral.text = some numeral := by
  obtain ⟨negative, whole, fraction, exponent⟩ := numeral
  have last : DigitsEnd (exponentPart exponent) := by
    intro c here
    rw [head?_exponentPart exponent c here]
    decide
  have pointless : ∀ c ∈ (exponentPart exponent).head?, c ≠ '.' := by
    intro c here
    rw [head?_exponentPart exponent c here]
    decide
  -- What follows the whole part starts with a point or is the exponent.
  have middle : DigitsEnd (fractionPart fraction ++ exponentPart exponent) := by
    cases fraction with
    | nil => exact last
    | cons d fraction => exact digitsEnd_cons (by decide)
  simp only [read?, text_eq, readSign_text, readWhole?_toDigits middle, Option.bind_eq_bind,
    Option.bind_some, readFraction?_fractionPart last pointless, readExponent?_exponentPart, pure]

/-- The characters that numerals are made of. -/
def isNumeralChar (c : Char) : Bool :=
  c.isDigit || ['-', '+', '.', 'e'].contains c

/-- A numeral is made of digits, signs, a point and the letter of the exponent. -/
theorem isNumeralChar_text (numeral : Numeral) : ∀ c ∈ numeral.text, isNumeralChar c := by
  -- Each of the four parts is made of such characters.
  obtain ⟨negative, whole, fraction, exponent⟩ := numeral
  have digit : ∀ {c : Char}, c.isDigit → isNumeralChar c := by
    intro c digit
    simp [isNumeralChar, digit]
  intro c here
  rw [text_eq, List.mem_append, List.mem_append, List.mem_append] at here
  rcases here with sign | whole | point | power
  · cases negative with
    | false => cases sign
    | true => exact List.mem_singleton.1 sign ▸ rfl
  · exact digit (isDigit_toDigits c whole)
  · cases fraction with
    | nil => cases point
    | cons d fraction =>
      rcases List.mem_cons.1 point with rfl | written
      · rfl
      · exact digit (isDigit_digitChars c written)
  · cases exponent with
    | none => cases power
    | some exponent =>
      rcases List.mem_cons.1 power with rfl | power
      · rfl
      rcases List.mem_cons.1 power with rfl | magnitude
      · split <;> rfl
      · exact digit (isDigit_toDigits c magnitude)

end Viewpoint.Numeral
