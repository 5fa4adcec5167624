import Mathlib.Data.List.Basic
import Viewpoint.Proofs.Wire.Legible
import Viewpoint.Wire.Snapshot
import Viewpoint.Wire.TimeRange

/-! Encodings in JSON that keep different values apart, but for instants that are read as one. -/

namespace Viewpoint

/-- Different values of a named type go by different names. -/
theorem Named.name_injective {α : Type} [Named α] :
    Function.Injective (Named.name : α → String) := by
  -- A value is found again by its name.
  intro a b same
  have found := Named.find?_name a
  rwa [same, Named.find?_name, Option.some.injEq, eq_comm] at found

namespace Json

variable {α : Type} {encode : α → Json}

/-- Different texts are encoded differently. -/
theorem text_injective : Function.Injective text := by
  -- The encoding has the text as its content.
  intro a b same
  simpa [text] using same

/-- Different natural numbers are encoded differently. -/
theorem nat_injective : Function.Injective nat := by
  -- The numeral has the number as its whole part.
  intro a b same
  simpa [nat, Numeral.ofNat] using same

/-- Different values of a named type are encoded differently. -/
theorem named_injective [Named α] : Function.Injective (named : α → Json) :=
  -- The encoding of a name tells the name, and the name tells the value.
  text_injective.comp Named.name_injective

/-- Lists are encoded differently if their elements are. -/
theorem list_injective (injective : Function.Injective encode) :
    Function.Injective (list encode) := by
  -- Elements are encoded one by one, in their order.
  intro a b same
  simp only [list, Json.array.injEq] at same
  exact List.map_injective_iff.2 injective same

/-- Objects with the same members have the same values under the same names. -/
theorem record_injective : Function.Injective record := by
  -- Members are listed in order, each with its name.
  intro a b same
  simp only [record, Json.object.injEq] at same
  refine List.map_injective_iff.2 ?_ same
  rintro ⟨key, value⟩ ⟨other, content⟩ equal
  simpa using equal

end Json

/-- Functions that tell the same values apart tell the same optional values apart. -/
theorem map_eq_map_iff {α β γ : Type} {f : α → β} {g : α → γ}
    (alike : ∀ {a b}, f a = f b ↔ g a = g b) {a b : Option α} :
    a.map f = b.map f ↔ a.map g = b.map g := by
  -- A missing value is told from every other by both.
  cases a <;> cases b <;> simp [alike]

/-- Optional values are told apart in JSON if no value is encoded as null. -/
theorem Json.orNull_eq_iff {α : Type} {encode : α → Json} (valued : ∀ value, encode value ≠ .null)
    {a b : Option α} : orNull encode a = orNull encode b ↔ a.map encode = b.map encode := by
  -- A value and a missing one are encoded differently, as only the latter is null.
  cases a <;> cases b <;> simp [orNull, valued, eq_comm (a := Json.null)]

/-- Instants are encoded the same exactly when they are read as the same. -/
theorem Instant.toJson_eq_iff {a b : Instant} : a.toJson = b.toJson ↔ a.asRead = b.asRead :=
  -- The encoding is the written form.
  Json.text_injective.eq_iff.trans written_wire_eq_iff

/-- Different steps of a drill-down are encoded differently. -/
theorem Crumb.toJson_injective : Function.Injective Crumb.toJson := by
  -- The three members tell the three parts.
  rintro ⟨d, value, level⟩ ⟨d', value', level'⟩ same
  have members := Json.record_injective same
  simp only [List.cons.injEq, Prod.mk.injEq, true_and, and_true] at members
  obtain ⟨dimension, content, depth⟩ := members
  rw [Json.named_injective dimension, Json.text_injective content, Json.nat_injective depth]

/-- Zooms are encoded the same exactly when they are read as the same. -/
theorem Zoom.toJson_eq_iff {a b : Zoom} : a.toJson = b.toJson ↔ a.asRead = b.asRead := by
  -- Both bounds are members, and a bound that is missing is null.
  have valued (t : Instant) : t.toJson ≠ .null := nofun
  have bound {t u : Option Instant} : Json.orNull Instant.toJson t = Json.orNull Instant.toJson u ↔
      t.map Instant.asRead = u.map Instant.asRead :=
    (Json.orNull_eq_iff valued).trans (map_eq_map_iff Instant.toJson_eq_iff)
  simp [toJson, asRead, Json.record_injective.eq_iff, bound]

end Viewpoint
