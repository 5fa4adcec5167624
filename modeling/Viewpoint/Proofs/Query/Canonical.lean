import Viewpoint.Proofs.Hash.Digest
import Viewpoint.Proofs.Json.Reader
import Viewpoint.Proofs.Wire.Encoding
import Viewpoint.Wire.Request

/-!
Query keys are told apart by their canonical texts as far as instants are by theirs, so that only
the hash can confuse them further.
-/

namespace Viewpoint

/-- Different lists of dimensions with their values are encoded differently. -/
theorem pairsToJson_injective : Function.Injective pairsToJson := by
  -- Each pair is encoded as the name of the dimension and the value.
  refine Json.list_injective ?_
  rintro ⟨d, value⟩ ⟨d', value'⟩ same
  simp only [Json.array.injEq, List.cons.injEq, and_true] at same
  rw [Json.named_injective same.1, Json.text_injective same.2]

namespace QueryKey

/-- The JSON of the ends of a range. -/
def endsToJson (ends : Instant × Instant) : Json :=
  .array [ends.1.toJson, ends.2.toJson]

/-- Ends are encoded the same exactly when they are read as the same. -/
theorem endsToJson_eq_iff {a b : Instant × Instant} :
    endsToJson a = endsToJson b ↔ (a.1.asRead, a.2.asRead) = (b.1.asRead, b.2.asRead) := by
  -- Each end is encoded on its own.
  simp [endsToJson, Instant.toJson_eq_iff]

/-- The members of the JSON of a key. -/
def members (key : QueryKey) : List (String × Json) :=
  Json.present "time_range" endsToJson key.bounds
    ++ [("filters", pairsToJson key.filters)]
    ++ Json.present "drilldown" (.list Crumb.toJson) key.crumbs
    ++ Json.present "zoom" Zoom.toJson key.zoom

/-- A part that may be missing is found under its name, and nothing is found if it is missing. -/
theorem lookup_members (key : QueryKey) :
    key.members.lookup "time_range" = key.bounds.map endsToJson
      ∧ key.members.lookup "filters" = some (pairsToJson key.filters)
      ∧ key.members.lookup "drilldown" = key.crumbs.map (.list Crumb.toJson)
      ∧ key.members.lookup "zoom" = key.zoom.map Zoom.toJson := by
  -- The names differ, so a member is found past those that are before it.
  obtain ⟨bounds, filters, crumbs, zoom⟩ := key
  cases bounds <;> cases crumbs <;> cases zoom <;> exact ⟨rfl, rfl, rfl, rfl⟩

/-- A part that may be missing is present in the same way when it is encoded the same. -/
theorem present_congr {α : Type} {name : String} {encode : α → Json} {a b : Option α}
    (same : a.map encode = b.map encode) :
    Json.present name encode a = Json.present name encode b := by
  -- Only the encoded value stands in the member.
  have member (value : Option α) : Json.present name encode value =
      ((value.map encode).map fun content => (name, content)).toList := by
    rw [Json.present, Option.map_map, Function.comp_def]
  rw [member, member, same]

/-- Keys are encoded the same exactly when they are read as the same. -/
theorem toJson_eq_iff {a b : QueryKey} : a.toJson = b.toJson ↔ a.asRead = b.asRead := by
  have members : a.toJson = b.toJson ↔ a.members = b.members := Json.record_injective.eq_iff
  have crumbs : Function.Injective (Option.map (Json.list Crumb.toJson)) :=
    Option.map_injective (Json.list_injective Crumb.toJson_injective)
  simp only [members, asRead, mk.injEq]
  -- Ends and bounds are told by their texts, and all other parts by themselves.
  rw [← map_eq_map_iff endsToJson_eq_iff, ← map_eq_map_iff Zoom.toJson_eq_iff]
  constructor
  · intro same
    obtain ⟨bounds, filters, trail, zoom⟩ := a.lookup_members
    obtain ⟨bounds', filters', trail', zoom'⟩ := b.lookup_members
    rw [same] at bounds filters trail zoom
    exact ⟨bounds.symm.trans bounds',
      pairsToJson_injective (Option.some.inj (filters.symm.trans filters')),
      crumbs (trail.symm.trans trail'), zoom.symm.trans zoom'⟩
  · rintro ⟨bounds, filters, trail, zoom⟩
    rw [QueryKey.members, QueryKey.members, present_congr bounds, filters, trail,
      present_congr zoom]

/-- The bytes of the canonical text of a key, which the fingerprint hashes. -/
def canonicalBytes (key : QueryKey) : List UInt8 :=
  key.canonical.toUTF8.toList

end QueryKey

/-- Listing bytes goes on behind those that are listed already. -/
theorem listBytes_eq (bytes : ByteArray) (i : Nat) (listed : List UInt8) :
    ByteArray.toList.loop bytes i listed = listed.reverse ++ bytes.data.toList.drop i := by
  -- The recursion is that of the loop, which takes one byte after the other.
  fun_induction ByteArray.toList.loop bytes i listed with
  | case1 i listed inside ih =>
    have inside : i < bytes.data.toList.length := inside
    have byte : bytes.get! i = bytes.data.toList[i] := getElem!_pos bytes.data i inside
    rw [ih, List.drop_eq_getElem_cons inside, byte, List.reverse_cons, List.append_assoc,
      List.singleton_append]
  | case2 i listed outside =>
    have outside : bytes.data.toList.length ≤ i := Nat.le_of_not_lt outside
    rw [List.drop_eq_nil_of_le outside, List.append_nil]

/-- Texts are told apart by their bytes. -/
theorem bytes_injective : Function.Injective fun text : String => text.toUTF8.toList := by
  -- The loop starts at the first byte with nothing listed.
  intro a b same
  simp only [ByteArray.toList, listBytes_eq, List.reverse_nil, List.nil_append, List.drop_zero]
    at same
  exact String.toByteArray_inj.1 (ByteArray.ext (Array.toList_inj.1 same))

namespace QueryKey

/-- Keys have the same canonical bytes exactly when they are read as the same. -/
theorem canonicalBytes_eq_iff {a b : QueryKey} :
    a.canonicalBytes = b.canonicalBytes ↔ a.asRead = b.asRead := by
  -- The bytes tell the text, which tells the value that it spells.
  have texts : a.canonicalBytes = b.canonicalBytes ↔ a.canonical = b.canonical :=
    bytes_injective.eq_iff
  have values : a.canonical = b.canonical ↔ a.toJson = b.toJson :=
    ⟨fun same => Json.compact_injective same, congrArg Json.compact⟩
  rw [texts, values, toJson_eq_iff]

/-- Keys share a fingerprint exactly when their canonical bytes share a hash. -/
theorem fingerprint_eq_iff (a b : QueryKey) :
    a.fingerprint = b.fingerprint
      ↔ Blake3.hashWords a.canonicalBytes = Blake3.hashWords b.canonicalBytes := by
  -- All fingerprints start in the same way, so only the digests differ.
  rw [← Blake3.hexDigest_eq_iff]
  exact String.append_right_inj fingerprintStart

/--
Keys have the same canonical bytes exactly when they are read as the same, and otherwise share a
fingerprint only where the hash collides on these bytes.

What is read differs from the key only if one of its instants lies in a leap second within a minute.
-/
theorem canonical_tells_apart (a b : QueryKey) :
    (a.canonicalBytes = b.canonicalBytes ↔ a.asRead = b.asRead)
      ∧ (a.fingerprint = b.fingerprint
        ↔ a.asRead = b.asRead ∨ Blake3.Collides a.canonicalBytes b.canonicalBytes)
      ∧ (a.asRead = a ↔ ∀ t ∈ a.instants, t.IsLegible) := by
  refine ⟨canonicalBytes_eq_iff, ?_, asRead_eq_self_iff⟩
  rw [fingerprint_eq_iff, Blake3.Collides, ne_eq, canonicalBytes_eq_iff]
  -- Equal bytes have equal hashes, and different bytes with equal hashes are a collision.
  constructor
  · intro hash
    by_cases same : a.asRead = b.asRead
    · exact .inl same
    · exact .inr ⟨same, hash⟩
  · rintro (same | ⟨_, hash⟩)
    · rw [canonicalBytes_eq_iff.2 same]
    · exact hash

/--
Two charts have different keys with the same canonical bytes: their ranges start at the same part
of the leap second after the fourth second of a minute and of the fifth second.
-/
theorem canonical_shared : ¬ ∀ (a b : Snapshot) (deps deps' : Deps),
    (QueryKey.derive a deps).canonicalBytes = (QueryKey.derive b deps').canonicalBytes ↔
      QueryKey.derive a deps = QueryKey.derive b deps' := by
  intro told
  -- Both starts are written as the fifth second.
  have same := (told (.initial ⟨.withinMinute, .minuteEnd, none⟩)
    (.initial ⟨.secondAfter, .minuteEnd, none⟩) .chart .chart).1
    (canonicalBytes_eq_iff.2 (by decide))
  revert same
  decide

end QueryKey

end Viewpoint
