import Viewpoint.Json.Lexer

/-! From tokens to JSON values, with the open arrays and objects on a stack. -/

namespace Viewpoint.Json

/-- An array or object that is still open, with what it holds so far, last element first. -/
inductive Frame where
  | array (items : List Json)
  | object (members : List (Option String × Json))
  | member (members : List (Option String × Json)) (key : Option String)

/-- What has to come next while a value is read. -/
inductive Awaiting where
  | value
  | itemOrClose
  | keyOrClose
  | key
  | colon (key : Option String)
  | delimiter
  | nothing (result : Json)

/-- What to await, and in which frames, once a value is complete. -/
def deliver (value : Json) : List Frame → Option (Awaiting × List Frame)
  | [] => some (.nothing value, [])
  | .array items :: frames => some (.delimiter, .array (value :: items) :: frames)
  | .member members key :: frames => some (.delimiter, .object ((key, value) :: members) :: frames)
  | .object _ :: _ => none

/-- Reads the token that begins a value. -/
def beginValue (token : Token) (frames : List Frame) : Option (Awaiting × List Frame) :=
  match token with
  | .null => deliver .null frames
  | .bool value => deliver (.bool value) frames
  | .number numeral => deliver (.number numeral) frames
  | .string content => deliver (.string content) frames
  | .openArray => some (.itemOrClose, .array [] :: frames)
  | .openObject => some (.keyOrClose, .object [] :: frames)
  | _ => none

/-- Closes the innermost array. -/
def closeArray : List Frame → Option (Awaiting × List Frame)
  | .array items :: frames => deliver (.array items.reverse) frames
  | _ => none

/-- Closes the innermost object. -/
def closeObject : List Frame → Option (Awaiting × List Frame)
  | .object members :: frames => deliver (.object members.reverse) frames
  | _ => none

/-- Reads one token where the given thing is awaited. -/
def advance (awaiting : Awaiting) (frames : List Frame) (token : Token) :
    Option (Awaiting × List Frame) :=
  match awaiting, token with
  | .value, token => beginValue token frames
  | .itemOrClose, .closeArray => closeArray frames
  | .itemOrClose, token => beginValue token frames
  | .keyOrClose, .closeObject => closeObject frames
  | .keyOrClose, .string key => some (.colon key, frames)
  | .key, .string key => some (.colon key, frames)
  | .colon key, .colon =>
    match frames with
    | .object members :: frames => some (.value, .member members key :: frames)
    | _ => none
  | .delimiter, .comma =>
    match frames with
    | .array _ :: _ => some (.value, frames)
    | .object _ :: _ => some (.key, frames)
    | _ => none
  | .delimiter, .closeArray => closeArray frames
  | .delimiter, .closeObject => closeObject frames
  | _, _ => none

/-- Reads tokens up to their end, where one value has to be complete. -/
def readTokens? (awaiting : Awaiting) (frames : List Frame) : List Token → Option Json
  | [] =>
    match awaiting with
    | .nothing result => some result
    | _ => none
  | token :: tokens =>
    (advance awaiting frames token).bind fun (awaiting, frames) =>
      readTokens? awaiting frames tokens

/-- The value that a text spells, if it is JSON. -/
def read? (input : List Char) : Option Json :=
  (lex? input).bind (readTokens? .value [])

end Viewpoint.Json
