import Viewpoint.Text.Digits

/-! Written numbers read back as the numbers that they were written from. -/

namespace Viewpoint

/-- The text does not go on with a digit. -/
def DigitsEnd (text : List Char) : Prop :=
  ∀ c ∈ text.head?, c.isDigit = false

/-- A text whose first character is no digit does not go on with one. -/
theorem digitsEnd_cons {c : Char} {text : List Char} (other : c.isDigit = false) :
    DigitsEnd (c :: text) := by
  -- The first character is the one that is looked at.
  intro first here
  rw [List.head?_cons, Option.mem_some_iff] at here
  exact here ▸ other

section

variable {digits text : List Char} {n width : Nat}

/-- The digits that a text starts with end where it does not go on with a digit. -/
theorem takeWhile_digits (all : ∀ c ∈ digits, c.isDigit) (ends : DigitsEnd text) :
    (digits ++ text).takeWhile Char.isDigit = digits := by
  -- The text behind the digits starts with none, or is empty.
  rw [List.takeWhile_append_of_pos all]
  cases text with
  | nil => simp
  | cons c text => rw [List.takeWhile_cons_of_neg (by simp [ends c rfl]), List.append_nil]

/-- What is left after the digits is the text that does not go on with a digit. -/
theorem dropWhile_digits (all : ∀ c ∈ digits, c.isDigit) (ends : DigitsEnd text) :
    (digits ++ text).dropWhile Char.isDigit = text := by
  -- The text behind the digits starts with none, or is empty.
  rw [List.dropWhile_append_of_pos all]
  cases text with
  | nil => rfl
  | cons c text => rw [List.dropWhile_cons_of_neg (by simp [ends c rfl])]

/-- The digits of a number name it. -/
theorem digitsValue_toDigits : digitsValue (Nat.toDigits 10 n) = n :=
  -- Writing and reading digits are those of the library.
  Nat.ofDigitChars_ten_toDigits

/-- A number is written in digits alone. -/
theorem isDigit_toDigits : ∀ c ∈ Nat.toDigits 10 n, c.isDigit :=
  -- All digits below ten are written as digits.
  fun _ => Nat.isDigit_of_mem_toDigits (by decide) (by decide)

/-- A number of two digits or more does not start with a zero. -/
theorem head?_toDigits (large : 10 ≤ n) : (Nat.toDigits 10 n).head? ≠ some '0' := by
  -- Induction on the number without its last digit.
  induction n using Nat.strongRecOn with
  | ind n ih =>
    obtain ⟨first, others, front⟩ : ∃ first others, Nat.toDigits 10 (n / 10) = first :: others :=
      List.exists_cons_of_ne_nil Nat.toDigits_ne_nil
    have distinct : first ≠ '0' := by
      by_cases more : 10 ≤ n / 10
      · have rest := ih (n / 10) (by omega) more
        rwa [front, List.head?_cons, ne_eq, Option.some.injEq] at rest
      · -- The only other digit is not zero, because the number has two digits.
        have alone : Nat.digitChar (n / 10) = first := by
          rw [Nat.toDigits_of_lt_base (by omega)] at front
          exact (List.cons.inj front).1
        have nonzero : ∀ digit < 10, 0 < digit → Nat.digitChar digit ≠ '0' := by decide
        exact alone ▸ nonzero (n / 10) (by omega) (by omega)
    rw [Nat.toDigits_eq_if (by decide), if_neg (by omega), front, List.cons_append, List.head?_cons,
      ne_eq, Option.some.injEq]
    exact distinct

/-- Zeros in front do not change the number. -/
theorem digitsValue_paddedDigits : digitsValue (paddedDigits width n) = n := by
  -- The zeros stand for nothing, whatever their places.
  unfold digitsValue paddedDigits
  rw [Nat.ofDigitChars_append, Nat.ofDigitChars_replicate_zero, Nat.mul_zero]
  exact Nat.ofDigitChars_ten_toDigits

/-- A number with zeros in front is written in digits alone. -/
theorem isDigit_paddedDigits : ∀ c ∈ paddedDigits width n, c.isDigit := by
  -- A character is one of the zeros or one of the digits.
  intro c here
  rcases List.mem_append.1 here with zero | digit
  · rw [List.eq_of_mem_replicate zero]
    decide
  · exact isDigit_toDigits c digit

/-- A written number is as wide as asked, or wider if it has more digits. -/
theorem length_paddedDigits :
    (paddedDigits width n).length = max width (Nat.toDigits 10 n).length := by
  -- As many zeros are put in front as are missing.
  simp only [paddedDigits, List.length_append, List.length_replicate]
  omega

/-- A number that fits is exactly as wide as asked. -/
theorem length_paddedDigits_of_lt (positive : 0 < width) (fits : n < Nat.pow 10 width) :
    (paddedDigits width n).length = width := by
  -- The number has no more digits than there are places.
  have short := (Nat.length_toDigits_le_iff (by decide) positive).2 fits
  rw [length_paddedDigits]
  omega

/-- A written number has a digit. -/
theorem paddedDigits_ne_nil : paddedDigits width n ≠ [] := by
  -- Even zero is written with a digit.
  simp [paddedDigits, Nat.toDigits_ne_nil]

/-- Digits up to the count that is asked for are read as their number. -/
theorem readDigits?_append {most : Nat} (all : ∀ c ∈ digits, c.isDigit) (nonempty : digits ≠ [])
    (fits : digits.length = most ∨ (digits.length ≤ most ∧ DigitsEnd text)) :
    readDigits? most (digits ++ text) = some (digitsValue digits, text) := by
  have kept : ((digits ++ text).takeWhile Char.isDigit).take most = digits := by
    rcases fits with rfl | ⟨short, ends⟩
    · -- More digits may follow, but they are not asked for.
      rw [List.takeWhile_append_of_pos all, List.take_left]
    · rw [takeWhile_digits all ends, List.take_of_length_le short]
  unfold readDigits?
  rw [kept]
  simp [nonempty]

/-- A number that fits its width is read back, whatever follows. -/
theorem readDigits?_paddedDigits (positive : 0 < width) (fits : n < Nat.pow 10 width) :
    readDigits? width (paddedDigits width n ++ text) = some (n, text) := by
  -- All the digits that are asked for are there.
  rw [readDigits?_append isDigit_paddedDigits paddedDigits_ne_nil
    (.inl (length_paddedDigits_of_lt positive fits)), digitsValue_paddedDigits]

end

end Viewpoint
