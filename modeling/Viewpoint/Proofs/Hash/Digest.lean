import Mathlib.Logic.Function.Basic
import Viewpoint.Hash.Blake3

/-! The hexadecimal digest of an input shows the words of its hash, and no more. -/

namespace Viewpoint

/-- The two hexadecimal digits of a number below 256 tell the number. -/
theorem hexPair_injective {m n : Nat} (hm : m < 256) (hn : n < 256)
    (same : hexPair m = hexPair n) : m = n := by
  -- The sixteen digits differ, and each stands for one half of the number.
  have digits : ∀ a < 16, ∀ b < 16, Nat.digitChar a = Nat.digitChar b → a = b := by decide
  simp only [hexPair, List.cons.injEq, and_true] at same
  have high := digits _ (by omega) _ (by omega) same.1
  have low := digits _ (by omega) _ (by omega) same.2
  omega

namespace Blake3

/-- Different inputs have the same hash. -/
def Collides (a b : List UInt8) : Prop :=
  a ≠ b ∧ hashWords a = hashWords b

/-- The digits of a word tell the word. -/
theorem wordDigits_injective : Function.Injective wordDigits := by
  intro a b same
  simp only [wordDigits, List.flatMap_cons, List.flatMap_nil] at same
  -- The bytes are told one after the other.
  obtain ⟨first, same⟩ := List.append_inj same rfl
  obtain ⟨second, same⟩ := List.append_inj same rfl
  obtain ⟨third, same⟩ := List.append_inj same rfl
  obtain ⟨fourth, -⟩ := List.append_inj same rfl
  have first := hexPair_injective (Nat.mod_lt _ (by decide)) (Nat.mod_lt _ (by decide)) first
  have second := hexPair_injective (Nat.mod_lt _ (by decide)) (Nat.mod_lt _ (by decide)) second
  have third := hexPair_injective (Nat.mod_lt _ (by decide)) (Nat.mod_lt _ (by decide)) third
  have fourth := hexPair_injective (Nat.mod_lt _ (by decide)) (Nat.mod_lt _ (by decide)) fourth
  have := a.toNat_lt
  have := b.toNat_lt
  apply UInt32.toNat_inj.1
  simp only [Nat.pow_eq, Nat.reducePow, Nat.div_one] at first second third fourth
  omega

/-- The digits of words tell the words, because all words have equally many. -/
theorem flatMap_wordDigits_injective :
    Function.Injective fun words : List UInt32 => words.flatMap wordDigits := by
  -- The induction is on the first list; the digits of its first word are as many as those of the
  -- other.
  intro words others same
  induction words generalizing others with
  | nil =>
    cases others with
    | nil => rfl
    | cons other others => simp [wordDigits, hexPair] at same
  | cons word words ih =>
    cases others with
    | nil => simp [wordDigits, hexPair] at same
    | cons other others =>
      simp only [List.flatMap_cons] at same
      obtain ⟨first, rest⟩ := List.append_inj same rfl
      rw [wordDigits_injective first, ih rest]

/-- Digests agree exactly when the words of the hash do. -/
theorem hexDigest_eq_iff {a b : List UInt8} :
    hexDigest a = hexDigest b ↔ hashWords a = hashWords b := by
  -- A digest is nothing but the digits of the words.
  constructor
  · intro same
    exact Vector.toList_inj.1 (flatMap_wordDigits_injective (String.ofList_injective same))
  · intro same
    rw [hexDigest, hexDigest, same]

end Blake3

end Viewpoint
