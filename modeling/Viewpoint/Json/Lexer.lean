import Viewpoint.Json.Basic

/-! From JSON text to tokens, one character at a time. -/

namespace Viewpoint.Json

/-- The blanks that may stand between tokens. -/
def isSpace (c : Char) : Bool :=
  c == ' ' || c == '\t' || c == '\n' || c == '\r'

/-- A piece of a text between quotes: a character, or a 16-bit unit given by its number. -/
inductive Piece where
  | char (c : Char)
  | unit (code : Nat)
  deriving DecidableEq, Repr

/-- A unit that opens a surrogate pair. -/
def isHighSurrogate (code : Nat) : Bool :=
  0xD800 ≤ code && code < 0xDC00

/-- A unit that closes a surrogate pair. -/
def isLowSurrogate (code : Nat) : Bool :=
  0xDC00 ≤ code && code < 0xE000

/-- The character that a surrogate pair names. -/
def pairedChar (high low : Nat) : Char :=
  Char.ofNat (0x10000 + (high - 0xD800) * 0x400 + (low - 0xDC00))

/--
Puts pieces together to characters, holding a unit that opened a surrogate pair.

There are no characters when half of a pair stands alone.
-/
def assemble : Option Nat → List Piece → Option (List Char)
  | none, [] => some []
  | some _, [] => none
  | none, .char c :: pieces => (assemble none pieces).map (c :: ·)
  | some _, .char _ :: _ => none
  | none, .unit code :: pieces =>
    if isHighSurrogate code then assemble (some code) pieces
    else if isLowSurrogate code then none
    else (assemble none pieces).map (Char.ofNat code :: ·)
  | some high, .unit code :: pieces =>
    if isLowSurrogate code then (assemble none pieces).map (pairedChar high code :: ·) else none

/-- The content of a text between quotes. -/
def contentOf (pieces : List Piece) : Option String :=
  (assemble none pieces).map String.ofList

/-- The character that a one-letter escape names. -/
def escapedChar? (letter : Char) : Option Char :=
  match letter with
  | '"' => some '"'
  | '\\' => some '\\'
  | '/' => some '/'
  | 'b' => some '\x08'
  | 'f' => some '\x0c'
  | 'n' => some '\n'
  | 'r' => some '\r'
  | 't' => some '\t'
  | _ => none

/-- The value of a hexadecimal digit of either case. -/
def hexDigit? (c : Char) : Option Nat :=
  if '0' ≤ c ∧ c ≤ '9' then some (c.toNat - '0'.toNat)
  else if 'a' ≤ c ∧ c ≤ 'f' then some (c.toNat - 'a'.toNat + 10)
  else if 'A' ≤ c ∧ c ≤ 'F' then some (c.toNat - 'A'.toNat + 10)
  else none

/-- The token of one character that brackets or separates values. -/
def markToken? (c : Char) : Option Token :=
  match c with
  | '[' => some .openArray
  | ']' => some .closeArray
  | '{' => some .openObject
  | '}' => some .closeObject
  | ':' => some .colon
  | ',' => some .comma
  | _ => none

/-- The token that a run of characters outside quotes spells. -/
def wordToken? (word : List Char) : Option Token :=
  if word = "null".toList then some .null
  else if word = "true".toList then some (.bool true)
  else if word = "false".toList then some (.bool false)
  else (Numeral.read? word).map .number

/-- Where a lexer stands; what it has collected is kept with the last element first. -/
inductive Lexing where
  | between
  | word (collected : List Char)
  | quoted (collected : List Piece)
  | escape (collected : List Piece)
  | unit (collected : List Piece) (digits code : Nat)
  deriving DecidableEq, Repr

/-- The state of a lexer: where it stands, and the tokens found so far with the last one first. -/
structure LexerState where
  place : Lexing
  found : List Token
  deriving DecidableEq, Repr

namespace LexerState

/-- A lexer at the start of a text. -/
def initial : LexerState :=
  ⟨.between, []⟩

/-- Reads a character that does not continue a word. -/
def separate (found : List Token) (c : Char) : LexerState :=
  if isSpace c then ⟨.between, found⟩
  else if c = '"' then ⟨.quoted [], found⟩
  else match markToken? c with
    | some token => ⟨.between, token :: found⟩
    | none => ⟨.word [c], found⟩

/-- A character ends a word when it is a blank, a quote or a mark. -/
def endsWord (c : Char) : Bool :=
  isSpace c || c == '"' || (markToken? c).isSome

/-- Reads one character; there is no next state when no token can hold it. -/
def step (state : LexerState) (c : Char) : Option LexerState :=
  match state.place with
  | .between => some (separate state.found c)
  | .word collected =>
    if endsWord c then
      (wordToken? collected.reverse).map fun token => separate (token :: state.found) c
    else some ⟨.word (c :: collected), state.found⟩
  | .quoted collected =>
    if c = '"' then some ⟨.between, .string (contentOf collected.reverse) :: state.found⟩
    else if c = '\\' then some ⟨.escape collected, state.found⟩
    else if c.toNat < 0x20 then none
    else some ⟨.quoted (.char c :: collected), state.found⟩
  | .escape collected =>
    if c = 'u' then some ⟨.unit collected 0 0, state.found⟩
    else (escapedChar? c).map fun named => ⟨.quoted (.char named :: collected), state.found⟩
  | .unit collected digits code =>
    (hexDigit? c).map fun digit =>
      let code := code * 16 + digit
      if digits = 3 then ⟨.quoted (.unit code :: collected), state.found⟩
      else ⟨.unit collected (digits + 1) code, state.found⟩

/-- Reads several characters. -/
def run (state : LexerState) : List Char → Option LexerState
  | [] => some state
  | c :: rest => (state.step c).bind fun next => next.run rest

/-- The tokens of a text that ends here; no token may be left open. -/
def finish? (state : LexerState) : Option (List Token) :=
  match state.place with
  | .between => some state.found.reverse
  | .word collected =>
    (wordToken? collected.reverse).map fun token => (token :: state.found).reverse
  | _ => none

end LexerState

/-- The tokens of a text, if it is made of tokens and blanks alone. -/
def lex? (input : List Char) : Option (List Token) :=
  (LexerState.initial.run input).bind LexerState.finish?

end Viewpoint.Json
