import Viewpoint.Json.Reader
import Viewpoint.Number.Binary64
import Viewpoint.Rejection

/-! Reading values of other types from JSON. -/

namespace Viewpoint

/-- Why a text cannot be read as a value. -/
inductive DecodeError where
  | malformed
  | unexpected
  | rejected (cause : Rejection)
  deriving DecidableEq, Repr

/-- The wording of an error; a text that is no JSON, or JSON of another kind, is told briefly. -/
def DecodeError.message : DecodeError → String
  | malformed => "not a JSON text"
  | unexpected => "not the expected kind of JSON"
  | rejected cause => cause.message

/-- A decoded value, or the reason why there is none. -/
abbrev Decoded (α : Type) := Except DecodeError α

namespace Decode

variable {α : Type}

/-- Decodes the value that a text spells. -/
def ofText (decode : Json → Decoded α) (text : String) : Decoded α :=
  match Json.read? text.toList with
  | none => .error .malformed
  | some value => decode value

/-- Decodes by a partial function. -/
def found : Option α → Decoded α
  | some value => .ok value
  | none => .error .unexpected

/-- Refuses a value that breaks a rule of its own type. -/
def accepted : Except Rejection α → Decoded α
  | .ok value => .ok value
  | .error cause => .error (.rejected cause)

/-- Decodes a text. -/
def text : Json → Decoded String
  | .string (some content) => .ok content
  | _ => .error .unexpected

/-- Decodes a truth value. -/
def bool : Json → Decoded Bool
  | .bool value => .ok value
  | _ => .error .unexpected

/-- Natural numbers are read when they fit into a word of 64 bits. -/
def wordLimit : Nat := Nat.pow 2 64

/-- Decodes a natural number. -/
def nat : Json → Decoded Nat
  | .number numeral => found (numeral.natBelow? wordLimit)
  | _ => .error .unexpected

/-- Decodes an integer of 64 bits. -/
def int : Json → Decoded Int
  | .number numeral => found numeral.int64?
  | _ => .error .unexpected

/-- Decodes a number of 64 bits. -/
def binary64 : Json → Decoded Binary64
  | .number numeral => found numeral.binary64?
  | _ => .error .unexpected

/-- Decodes a value that may be null. -/
def optional (decode : Json → Decoded α) : Json → Decoded (Option α)
  | .null => .ok none
  | value => (decode value).map some

/-- Decodes every value of a list. -/
def all (decode : Json → Decoded α) : List Json → Decoded (List α)
  | [] => .ok []
  | value :: values => (decode value).bind fun first => (all decode values).map (first :: ·)

/-- Decodes an array. -/
def list (decode : Json → Decoded α) : Json → Decoded (List α)
  | .array items => all decode items
  | _ => .error .unexpected

/--
Decodes the name of a value.

A name may also be the only key of an object with nothing under it: null, and where the value was
held back before it is decoded, also an empty object.
-/
def name [Named α] (heldBack : Bool) : Json → Decoded α
  | .string (some name) => found (Named.find? name)
  | .object [(some name, .null)] => found (Named.find? name)
  | .object [(some name, .object [])] =>
    if heldBack then found (Named.find? name) else .error .unexpected
  | _ => .error .unexpected

/-- Known members of an object, each at most once; members of other names do not matter. -/
def knownMembers (names : List String) (screen : String → Json → Decoded Unit)
    (known : List (String × Json)) : List (Option String × Json) → Decoded (List (String × Json))
  | [] => .ok known.reverse
  | (none, _) :: _ => .error .unexpected
  | (some key, value) :: members =>
    if names.contains key then
      if (known.lookup key).isSome then .error .unexpected
      else (screen key value).bind fun _ =>
        knownMembers names screen ((key, value) :: known) members
    else knownMembers names screen known members

/-- Items of an array in the order of the names that they stand for. -/
def namedItems (screen : String → Json → Decoded Unit) :
    List String → List Json → Decoded (List (String × Json))
  | name :: names, value :: values =>
    (screen name value).bind fun _ =>
      (namedItems screen names values).map ((name, value) :: ·)
  | _, [] => .ok []
  | [], _ :: _ => .error .unexpected

/--
The fields of a record, which is an object, or an array of at least the given length.

The fields are screened in the order in which they are written.
-/
def screenedFields (names : List String) (least : Nat) (screen : String → Json → Decoded Unit) :
    Json → Decoded (List (String × Json))
  | .object members => knownMembers names screen [] members
  | .array items =>
    (namedItems screen names items).bind fun known =>
      if known.length < least then .error .unexpected else .ok known
  | _ => .error .unexpected

/-- The fields of a record, without any screening. -/
def fields (names : List String) (least : Nat) : Json → Decoded (List (String × Json)) :=
  screenedFields names least fun _ _ => .ok ()

/-- Decodes a field that has to be there. -/
def required (known : List (String × Json)) (name : String) (decode : Json → Decoded α) :
    Decoded α :=
  match known.lookup name with
  | some value => decode value
  | none => .error .unexpected

/-- Decodes a field that has a value of its own when it is missing. -/
def fieldOr (known : List (String × Json)) (name : String) (default : α)
    (decode : Json → Decoded α) : Decoded α :=
  match known.lookup name with
  | some value => decode value
  | none => .ok default

/-- Decodes a field that may be missing or null. -/
def optionalField (known : List (String × Json)) (name : String) (decode : Json → Decoded α) :
    Decoded (Option α) :=
  fieldOr known name none (optional decode)

/-- A number has a meaning when it is an integer of 64 bits or a finite floating-point number. -/
def isMeaningful (numeral : Numeral) : Bool :=
  (numeral.natBelow? wordLimit).isSome || numeral.int64?.isSome || numeral.binary64?.isSome

mutual

/--
A value can be held back before it is decoded.

For that it must not nest deeper than the room that is left for it, and all its texts and numbers
must have a meaning, in whatever part of it they are.
-/
def fits (room : Nat) : Json → Bool
  | .null => true
  | .bool _ => true
  | .number numeral => isMeaningful numeral
  | .string content => content.isSome
  | .array items => 0 < room && itemsFit (room - 1) items
  | .object members => 0 < room && membersFit (room - 1) members

/-- All items of an array can be held back. -/
def itemsFit (room : Nat) : List Json → Bool
  | [] => true
  | item :: items => fits room item && itemsFit room items

/-- All members of an object can be held back. -/
def membersFit (room : Nat) : List (Option String × Json) → Bool
  | [] => true
  | (key, value) :: members => key.isSome && fits room value && membersFit room members

end

/-- The depth to which a text may nest where values are held back. -/
def greatestDepth : Nat := 127

/-- The tag of a value and the rest of it: an object with the tag, or an array that it begins. -/
def tagged (tag : String) : Json → Decoded (Json × Json)
  | .object members =>
    match members.filter fun (key, _) => key == some tag with
    | [(_, value)] => .ok (value, .object (members.filter fun (key, _) => key != some tag))
    | _ => .error .unexpected
  | .array (value :: items) => .ok (value, .array items)
  | _ => .error .unexpected

/-- Decodes a value without fields from what is left beside its tag. -/
def nothing (value : α) : Json → Decoded α
  | .object _ => .ok value
  | .array [] => .ok value
  | _ => .error .unexpected

end Decode

/-- A field that is left out when there is no value for it. -/
def Json.present {α : Type} (name : String) (encode : α → Json) (value : Option α) :
    List (String × Json) :=
  (value.map fun v => (name, encode v)).toList

/-- The JSON of a named value. -/
def Json.named {α : Type} [Named α] (value : α) : Json :=
  .text (Named.name value)

end Viewpoint
