import Mathlib.Data.List.Nodup
import Viewpoint.Proofs.Json.Reader
import Viewpoint.Wire.Decode

/-! Decoders read back what encoders write. -/

namespace Viewpoint

namespace Json

variable {α : Type}

/-- A text is not null. -/
theorem text_ne_null (content : String) : text content ≠ null := by
  -- They are different kinds of JSON.
  intro same
  cases same

/-- Neither is the name of a value. -/
theorem named_ne_null [Named α] (value : α) : named value ≠ null :=
  -- A name is a text.
  text_ne_null _

/-- Neither is a list, even without elements. -/
theorem list_ne_null {encode : α → Json} (values : List α) : list encode values ≠ null := by
  -- They are different kinds of JSON.
  intro same
  cases same

end Json

namespace Decode

variable {α κ : Type} {decode : Json → Decoded α} {encode : α → Json} {value : Json}
  {key first : String} {names : List String} {members : List (String × Json)} {least room : Nat}

/-- A decoder reads back every value that an encoder writes. -/
def Inverts (decode : Json → Decoded α) (encode : α → Json) : Prop :=
  ∀ value, decode (encode value) = .ok value

/-- To decode the text of a value is to decode the value. -/
theorem ofText_compact (decode : Json → Decoded α) (value : Json) :
    ofText decode value.compact = decode value := by
  -- The compact text is read as the value that it was written for.
  rw [ofText, Json.compact, String.toList_ofList, Json.read?_compactText]

/-- A text that is decoded spells some value that is. -/
theorem exists_of_ofText {text : String} {result : α} (decoded : ofText decode text = .ok result) :
    ∃ value, decode value = .ok result := by
  -- A text that spells no value is not decoded.
  rw [ofText] at decoded
  split at decoded
  · cases decoded
  · exact ⟨_, decoded⟩

/-- An accepted value was not refused by the rule of its type. -/
theorem accepted_eq_ok {result : Except Rejection α} {value : α}
    (passed : accepted result = .ok value) : result = .ok value := by
  -- A refusal would have been an error.
  cases result with
  | error cause => cases passed
  | ok _ =>
    cases passed
    rfl

/-- Texts are read back. -/
@[simp] theorem text_text (content : String) : text (.text content) = .ok content :=
  rfl

/-- Named values are read back, whether they were held back or not. -/
@[simp] theorem name_named [Named α] (heldBack : Bool) (value : α) :
    name heldBack (.named value) = .ok value := by
  -- A name is written as a text, and it finds its own value.
  simp only [name, Json.named, Json.text, found, Named.find?_name]

/-- A numeral of a natural number below a limit names that number. -/
theorem natBelow?_ofNat {limit n : Nat} (small : n < limit) :
    (Numeral.ofNat n).natBelow? limit = some n := by
  -- The numeral has neither a sign nor a fraction nor an exponent.
  simp [Numeral.natBelow?, Numeral.ofNat, Numeral.isInteger, small]

/-- Natural numbers that fit into a word are read back. -/
theorem nat_nat {n : Nat} (small : n < wordLimit) : nat (.nat n) = .ok n := by
  -- The numeral is below the limit of words.
  simp only [nat, Json.nat, natBelow?_ofNat small, found]

/-- A value that is not null is not read as a missing one. -/
theorem optional_of_ne_null (valued : value ≠ .null) :
    optional decode value = (decode value).map some := by
  -- Only null is read as missing.
  unfold optional
  split
  · exact absurd rfl valued
  · rfl

/-- Optional values are read back if no value is written as null. -/
theorem Inverts.optional (inverts : Inverts decode encode)
    (valued : ∀ value, encode value ≠ .null) : Inverts (optional decode) (Json.orNull encode) := by
  -- A missing value is written as null, and a present one is not.
  intro value
  cases value with
  | none => rfl
  | some value => rw [Json.orNull, optional_of_ne_null (valued value), inverts value, Except.map]

/-- A list is read back if each of its elements is. -/
theorem list_list {values : List α} (reads : ∀ value ∈ values, decode (encode value) = .ok value) :
    list decode (.list encode values) = .ok values := by
  -- The elements are decoded from the first to the last, as they were written.
  change all decode (values.map encode) = .ok values
  induction values with
  | nil => rfl
  | cons value values ih =>
    obtain ⟨first, rest⟩ := List.forall_mem_cons.1 reads
    rw [List.map_cons, all, first, ih rest]
    rfl

/-- So are all lists of values that are all read back. -/
theorem Inverts.list (inverts : Inverts decode encode) :
    Inverts (list decode) (Json.list encode) :=
  -- Each element is written and read by itself.
  fun _ => list_list fun value _ => inverts value

section Fields

variable {screen : String → Json → Decoded Unit}

/-- Members that are known and pass the screen are all taken in, behind those taken in before. -/
theorem knownMembers_record (done : List (String × Json))
    (known : ∀ member ∈ members, member.1 ∈ names)
    (distinct : ((done.reverse ++ members).map Prod.fst).Nodup)
    (passes : ∀ member ∈ members, screen member.1 member.2 = .ok ()) :
    knownMembers names screen done (members.map fun (key, value) => (some key, value)) =
      .ok (done.reverse ++ members) := by
  -- The induction is on the members, for any that were taken in before.
  induction members generalizing done with
  | nil => simp [knownMembers]
  | cons member rest ih =>
    obtain ⟨key, value⟩ := member
    obtain ⟨listed, known⟩ := List.forall_mem_cons.1 known
    obtain ⟨passed, passes⟩ := List.forall_mem_cons.1 passes
    have fresh : done.lookup key = none := by
      -- A key that was taken in before would stand twice among those of the members.
      rw [List.lookup_eq_none_iff]
      intro earlier taken
      rw [List.map_append, List.nodup_append] at distinct
      have apart := distinct.2.2 earlier.1 (by simpa using ⟨_, taken⟩) key (by simp)
      simpa using Ne.symm apart
    have onward := ih ((key, value) :: done) known (by simpa using distinct) passes
    simp only [List.map_cons, knownMembers, List.contains_iff_mem.2 listed, if_true, fresh,
      Option.isSome_none, Bool.false_eq_true, if_false, passed, Except.bind, onward,
      List.reverse_cons, List.append_assoc, List.singleton_append]

/-- The fields of an object with known members, in their order, are its members. -/
theorem screenedFields_record (listed : (members.map Prod.fst).Sublist names)
    (distinct : names.Nodup) (passes : ∀ member ∈ members, screen member.1 member.2 = .ok ()) :
    screenedFields names least screen (.record members) = .ok members :=
  -- At first nothing is taken in.
  knownMembers_record []
    (fun _ member => listed.subset (List.mem_map_of_mem member)) (distinct.sublist listed) passes

/-- So they are without any screening. -/
@[simp] theorem fields_record (listed : (members.map Prod.fst).Sublist names)
    (distinct : names.Nodup) : fields names least (.record members) = .ok members :=
  -- All fields pass where nothing is screened.
  screenedFields_record listed distinct fun _ _ => rfl

/-- A required field that comes first is decoded. -/
@[simp] theorem required_cons_self :
    required ((key, value) :: members) key decode = decode value := by
  -- The first member is the one that is looked up.
  simp only [required, List.lookup_cons_self]

/-- A required field is looked for behind those of other names. -/
@[simp] theorem required_cons_of_ne (apart : key ≠ first) :
    required ((first, value) :: members) key decode = required members key decode := by
  -- The first member is passed over.
  simp only [required, List.lookup_cons, beq_eq_false_iff_ne.2 apart]

/-- A field that may be missing is decoded when it comes first. -/
@[simp] theorem fieldOr_cons_self {default : α} :
    fieldOr ((key, value) :: members) key default decode = decode value := by
  -- The first member is the one that is looked up.
  simp only [fieldOr, List.lookup_cons_self]

/-- It is looked for behind those of other names as well. -/
@[simp] theorem fieldOr_cons_of_ne {default : α} (apart : key ≠ first) :
    fieldOr ((first, value) :: members) key default decode =
      fieldOr members key default decode := by
  -- The first member is passed over.
  simp only [fieldOr, List.lookup_cons, beq_eq_false_iff_ne.2 apart]

/-- An optional field is read back if it is left out when there is no value. -/
theorem Inverts.optionalField (inverts : Inverts decode encode)
    (valued : ∀ value, encode value ≠ .null) {content : Option α}
    (written : members.lookup key = content.map encode) :
    optionalField members key decode = .ok content := by
  rw [Decode.optionalField, fieldOr, written]
  -- A value that is there is decoded as one that could be null.
  cases content with
  | none => rfl
  | some value => exact inverts.optional valued (some value)

/-- A test that all members of an object pass keeps them. -/
theorem filter_record_of_pos {test : Option String × Json → Bool}
    (passes : ∀ member ∈ members, test (some member.1, member.2) = true) :
    (members.map fun (key, value) => (some key, value)).filter test =
      members.map fun (key, value) => (some key, value) := by
  -- Each entry of the object comes from a member.
  refine List.filter_eq_self.2 fun entry listed => ?_
  obtain ⟨member, mem, rfl⟩ := List.mem_map.1 listed
  exact passes member mem

/-- A test that no member of an object passes keeps none. -/
theorem filter_record_of_neg {test : Option String × Json → Bool}
    (fails : ∀ member ∈ members, test (some member.1, member.2) = false) :
    (members.map fun (key, value) => (some key, value)).filter test = [] := by
  -- Each entry of the object comes from a member.
  refine List.filter_eq_nil_iff.2 fun entry listed => ?_
  obtain ⟨member, mem, rfl⟩ := List.mem_map.1 listed
  simpa using fails member mem

/-- A tag that comes first is taken off, and the other members are left. -/
theorem tagged_record {tag : String} (others : ∀ member ∈ members, member.1 ≠ tag) :
    tagged tag (.record ((tag, value) :: members)) = .ok (value, .record members) := by
  -- No other member is named like the tag.
  rw [Json.record, List.map_cons, tagged, List.filter_cons_of_pos (by simp), filter_record_of_neg,
    List.filter_cons_of_neg (by simp), filter_record_of_pos]
  · rfl
  · intro member mem
    simpa using others member mem
  · intro member mem
    simpa using others member mem

end Fields

section Present

variable {spelling : κ → String} (encode : α → Json) (content : κ → Option α) (keys : List κ)

/-- Of members that are left out without a value, those that are there keep their order. -/
theorem names_present : ((keys.flatMap fun key =>
    Json.present (spelling key) encode (content key)).map Prod.fst).Sublist
      (keys.map spelling) := by
  -- Each key gives its own name or none.
  induction keys with
  | nil => exact .refl _
  | cons first rest ih =>
    rw [List.flatMap_cons, List.map_append, List.map_cons]
    cases content first with
    | none => exact ih.cons _
    | some value => exact ih.cons_cons _

/-- Each of them is found under its own name. -/
theorem lookup_present [DecidableEq κ] (injective : Function.Injective spelling) (key : κ) :
    (keys.flatMap fun key => Json.present (spelling key) encode (content key)).lookup
      (spelling key) = if key ∈ keys then (content key).map encode else none := by
  induction keys with
  | nil => rfl
  | cons first rest ih =>
    rw [List.flatMap_cons, List.lookup_append, ih]
    by_cases own : key = first
    · -- The first member is the one looked for, unless it is left out, as all others of its name.
      subst own
      cases content key <;> simp [Json.present]
    · -- A member of another name is passed over, if it is there.
      have apart : (spelling key == spelling first) = false :=
        beq_eq_false_iff_ne.2 fun same => own (injective same)
      cases content first <;> simp [Json.present, List.lookup_cons, own, apart]

end Present

section Fits

/-- A text can be held back anywhere. -/
@[simp] theorem fits_text (content : String) : fits room (.text content) = true :=
  rfl

/-- So can the name of a value. -/
@[simp] theorem fits_named [Named α] (value : α) : fits room (.named value) = true :=
  rfl

/-- A natural number can be held back when it fits into a word. -/
theorem fits_nat {n : Nat} (small : n < wordLimit) : fits room (.nat n) = true := by
  -- Only numbers beyond a word lose their meaning.
  simp [Json.nat, fits, isMeaningful, natBelow?_ofNat small]

/-- An optional value can be held back when every value can. -/
theorem fits_orNull (fitting : ∀ value, fits room (encode value) = true) (content : Option α) :
    fits room (.orNull encode content) = true := by
  -- Null can be held back anywhere.
  cases content with
  | none => rfl
  | some value => exact fitting value

/-- A list can be held back when its elements can, with one level less. -/
theorem fits_list (fitting : ∀ value, fits room (encode value) = true) (values : List α) :
    fits (room + 1) (.list encode values) = true := by
  -- The induction is on the elements, each of which stands one level deeper.
  have items : itemsFit room (values.map encode) = true := by
    induction values with
    | nil => rfl
    | cons value values ih => simp [itemsFit, fitting, ih]
  simp [Json.list, fits, items]

/-- An object can be held back exactly when its members can, with one level less. -/
theorem fits_record :
    fits (room + 1) (.record members) = true ↔ ∀ member ∈ members, fits room member.2 = true := by
  -- The keys of a record are all there, so only the values matter.
  have inside : membersFit room (members.map fun (key, value) => (some key, value)) =
      members.all fun member => fits room member.2 := by
    induction members with
    | nil => rfl
    | cons member rest ih => simp [membersFit, ih]
  simp [Json.record, fits, inside]

/-- An object that begins with a tag can be held back, and its tag can be taken off. -/
theorem tagged_of_fits {tag : String} (kind : String)
    (others : ∀ member ∈ members, member.1 ≠ tag ∧ fits 126 member.2 = true) :
    fits greatestDepth (.record ((tag, .text kind) :: members)) = true ∧
      tagged tag (.record ((tag, .text kind) :: members)) = .ok (.text kind, .record members) :=
  -- The members are one level deeper than the object.
  ⟨fits_record.2 (List.forall_mem_cons.2 ⟨rfl, fun member mem => (others member mem).2⟩),
    tagged_record fun member mem => (others member mem).1⟩

end Fits

end Decode

end Viewpoint
