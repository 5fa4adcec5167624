import Viewpoint.Wire.Response

/-! JSON values in the form in which they are stored: with sorted members and numbers of 64 bits. -/

namespace Viewpoint.Json

/-- Puts a member at its place in the order of keys, instead of one that has the same key. -/
def insertMember (key : Option String) (value : Json) :
    List (Option String × Json) → List (Option String × Json)
  | [] => [(key, value)]
  | (other, present) :: rest =>
    if key == other then (key, value) :: rest
    else if key.getD "" < other.getD "" then (key, value) :: (other, present) :: rest
    else (other, present) :: insertMember key value rest

/-- A number that is no integer of 64 bits is stored as a floating-point number, if it can be. -/
def storedNumber (numeral : Numeral) : Json :=
  if (numeral.natBelow? Decode.wordLimit).isSome || numeral.int64?.isSome then .number numeral
  else .orNull Binary64.toJson numeral.binary64?

mutual

/-- The form in which a value is stored. -/
def stored : Json → Json
  | .number numeral => storedNumber numeral
  | .array items => .array (storedItems items)
  | .object members => .object (storedMembers [] members)
  | value => value

/-- The form in which the items of an array are stored. -/
def storedItems : List Json → List Json
  | [] => []
  | item :: items => stored item :: storedItems items

/-- The form in which members are stored beside those that are stored already. -/
def storedMembers (sorted : List (Option String × Json)) :
    List (Option String × Json) → List (Option String × Json)
  | [] => sorted
  | (key, value) :: members => storedMembers (insertMember key (stored value) sorted) members

end

/-- The member of an object with the given key. -/
def member? (value : Json) (key : String) : Option Json :=
  match value with
  | .object members => members.lookup (some key)
  | _ => none

end Viewpoint.Json
