import Viewpoint.Json.Numeral

/-! JSON values and the tokens that spell them. -/

namespace Viewpoint

/--
A JSON value, with numbers as they are spelled and members in the order they are written.

A text without content is one whose escapes name half of a surrogate pair: it is well formed, but
no string of characters.
-/
inductive Json where
  | null
  | bool (value : Bool)
  | number (numeral : Numeral)
  | string (content : Option String)
  | array (items : List Json)
  | object (members : List (Option String × Json))
  deriving Inhabited

namespace Json

/-- The unit that JSON text is made of, once blanks are dropped. -/
inductive Token where
  | openArray
  | closeArray
  | openObject
  | closeObject
  | colon
  | comma
  | null
  | bool (value : Bool)
  | number (numeral : Numeral)
  | string (content : Option String)
  deriving DecidableEq, Repr

/-- A JSON string of the given characters. -/
def text (content : String) : Json :=
  .string (some content)

/-- A JSON number that is a natural number. -/
def nat (n : Nat) : Json :=
  .number (.ofNat n)

/-- A JSON number that is an integer. -/
def int (n : Int) : Json :=
  .number (.ofInt n)

/-- A JSON object with the given members, in their order. -/
def record (members : List (String × Json)) : Json :=
  .object (members.map fun (key, value) => (some key, value))

/-- The JSON of an optional value, null if there is none. -/
def orNull {α : Type} (encode : α → Json) : Option α → Json
  | none => .null
  | some value => encode value

/-- A JSON array of encoded values. -/
def list {α : Type} (encode : α → Json) (values : List α) : Json :=
  .array (values.map encode)

mutual

/-- The tokens that spell a value. -/
def tokens : Json → List Token
  | .null => [.null]
  | .bool value => [.bool value]
  | .number numeral => [.number numeral]
  | .string content => [.string content]
  | .array [] => [.openArray, .closeArray]
  | .array (item :: items) => .openArray :: (tokens item ++ itemTokens items)
  | .object [] => [.openObject, .closeObject]
  | .object ((key, value) :: members) =>
    .openObject :: .string key :: .colon :: (tokens value ++ memberTokens members)

/-- The tokens of the further items of an array, up to its end. -/
def itemTokens : List Json → List Token
  | [] => [.closeArray]
  | item :: items => .comma :: (tokens item ++ itemTokens items)

/-- The tokens of the further members of an object, up to its end. -/
def memberTokens : List (Option String × Json) → List Token
  | [] => [.closeObject]
  | (key, value) :: members =>
    .comma :: .string key :: .colon :: (tokens value ++ memberTokens members)

end

end Json

end Viewpoint
