import Viewpoint.Json.Basic

/-! JSON text, on one line or laid out over many. -/

namespace Viewpoint.Json

/-- A character as it stands between quotes: only quotes, backslashes and controls are escaped. -/
def quotedChar (c : Char) : List Char :=
  match c with
  | '"' => ['\\', '"']
  | '\\' => ['\\', '\\']
  | '\x08' => ['\\', 'b']
  | '\x0c' => ['\\', 'f']
  | '\n' => ['\\', 'n']
  | '\r' => ['\\', 'r']
  | '\t' => ['\\', 't']
  | c => if c.toNat < 0x20 then '\\' :: 'u' :: '0' :: '0' :: hexPair c.toNat else [c]

/-- The escape that stands for a text without content: half of a surrogate pair. -/
def halfPairEscape : List Char :=
  ['\\', 'u', 'd', '8', '0', '0']

/-- A text between quotes. -/
def quoted (content : Option String) : List Char :=
  let inner := match content with
    | none => halfPairEscape
    | some content => content.toList.flatMap quotedChar
  '"' :: (inner ++ ['"'])

/-- The characters that spell a token. -/
def Token.spelling : Token → List Char
  | .openArray => ['[']
  | .closeArray => [']']
  | .openObject => ['\x7b']
  | .closeObject => ['\x7d']
  | .colon => [':']
  | .comma => [',']
  | .null => "null".toList
  | .bool true => "true".toList
  | .bool false => "false".toList
  | .number numeral => numeral.text
  | .string content => quoted content

/-- The text of a value without any blanks. -/
def compactText (value : Json) : List Char :=
  value.tokens.flatMap Token.spelling

/-- The text of a value without any blanks, as a string. -/
def compact (value : Json) : String :=
  String.ofList value.compactText

/-- A new line, indented by two spaces for each open array or object. -/
def newLine (depth : Nat) : List Char :=
  '\n' :: List.replicate (2 * depth) ' '

mutual

/-- The text of a value with every item and member on a line of its own. -/
def layout (depth : Nat) : Json → List Char
  | .null => Token.null.spelling
  | .bool value => (Token.bool value).spelling
  | .number numeral => numeral.text
  | .string content => quoted content
  | .array [] => ['[', ']']
  | .array (item :: items) =>
    '[' :: (newLine (depth + 1) ++ (layout (depth + 1) item ++ itemsLayout depth items))
  | .object [] => ['\x7b', '\x7d']
  | .object ((key, value) :: members) =>
    '\x7b' :: (newLine (depth + 1) ++ (quoted key ++
      (':' :: ' ' :: (layout (depth + 1) value ++ membersLayout depth members))))

/-- The further items of an array at the given depth, up to its end. -/
def itemsLayout (depth : Nat) : List Json → List Char
  | [] => newLine depth ++ [']']
  | item :: items =>
    ',' :: (newLine (depth + 1) ++ (layout (depth + 1) item ++ itemsLayout depth items))

/-- The further members of an object at the given depth, up to its end. -/
def membersLayout (depth : Nat) : List (Option String × Json) → List Char
  | [] => newLine depth ++ ['\x7d']
  | (key, value) :: members =>
    ',' :: (newLine (depth + 1) ++ (quoted key ++
      (':' :: ' ' :: (layout (depth + 1) value ++ membersLayout depth members))))

end

/-- The text of a value laid out over many lines, as a string. -/
def pretty (value : Json) : String :=
  String.ofList (value.layout 0)

end Viewpoint.Json
