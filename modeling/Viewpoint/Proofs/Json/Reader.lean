import Viewpoint.Json.Reader
import Viewpoint.Proofs.Json.Lexer

/-! A JSON value is read back from its text, so values with the same text are the same. -/

namespace Viewpoint.Json

/-- A text is read as the given tokens, in front of another text. -/
def ReadsAs (written : List Char) (tokens : List Token) (text : List Char) : Prop :=
  ∀ found, LexerState.readOn ⟨.between, found⟩ (written ++ text)
    = LexerState.readOn ⟨.between, tokens.reverse ++ found⟩ text

/-- The tokens are found where they are spelled without blanks before the given text. -/
def Lexes (tokens : List Token) (text : List Char) : Prop :=
  ∀ found, LexerState.readOn ⟨.between, found⟩ (tokens.flatMap Token.spelling ++ text)
    = LexerState.readOn ⟨.between, tokens.reverse ++ found⟩ text

section

variable {token : Token} {tokens others : List Token} {written behind text : List Char}

/-- A single token is read from its spelling; a word has to end before the text. -/
theorem readsAs_spelling (token : Token) (ends : token.isWord → WordEnds text) :
    ReadsAs token.spelling [token] text :=
  -- A single token is what the lexer finds at a time.
  fun _ => LexerState.readOn_spelling token ends

/-- Texts are read one after the other. -/
theorem ReadsAs.append (first : ReadsAs written tokens (behind ++ text))
    (second : ReadsAs behind others text) :
    ReadsAs (written ++ behind) (tokens ++ others) text := by
  -- The tokens that are found first come last in the reversed list.
  intro found
  rw [List.append_assoc, first, second, List.reverse_append, List.append_assoc]

/-- A token that is no word is read in front of any text. -/
theorem ReadsAs.mark (token : Token) (mark : token.isWord = false)
    (rest : ReadsAs behind tokens text) :
    ReadsAs (token.spelling ++ behind) (token :: tokens) text := by
  -- A mark needs nothing to end it.
  have first : ReadsAs token.spelling [token] (behind ++ text) :=
    readsAs_spelling token fun word => by simp [mark] at word
  exact first.append rest

/-- A single token is found; a word has to end before the text. -/
theorem lexes_singleton (ends : token.isWord → WordEnds text) : Lexes [token] text := by
  -- The spelling of a single token is the whole text.
  intro found
  rw [List.flatMap_singleton]
  exact readsAs_spelling token ends found

/-- Tokens are found one list after the other. -/
theorem Lexes.append (first : Lexes tokens (others.flatMap Token.spelling ++ text))
    (second : Lexes others text) : Lexes (tokens ++ others) text := by
  -- The spellings follow each other as the tokens do.
  have both : ReadsAs _ (tokens ++ others) text := ReadsAs.append first second
  rwa [← List.flatMap_append] at both

/-- A token that is no word is found before any others. -/
theorem Lexes.mark (mark : token.isWord = false) (rest : Lexes tokens text) :
    Lexes (token :: tokens) text :=
  -- The spelling of the mark comes first.
  ReadsAs.mark token mark rest

end

/-- The further items of an array start with a mark. -/
theorem wordEnds_itemTokens (items : List Json) (text : List Char) :
    WordEnds ((itemTokens items).flatMap Token.spelling ++ text) := by
  -- It is a comma or the bracket at the end, and both are marks.
  cases items <;> exact fun _ here => Option.mem_some_iff.1 here ▸ rfl

/-- The further members of an object start with a mark. -/
theorem wordEnds_memberTokens (members : List (Option String × Json)) (text : List Char) :
    WordEnds ((memberTokens members).flatMap Token.spelling ++ text) := by
  -- It is a comma or the brace at the end, and both are marks.
  cases members <;> exact fun _ here => Option.mem_some_iff.1 here ▸ rfl

-- Induction on the value. Inside an array or object a mark follows each value, so that only what
-- follows the whole value has to end a word.
mutual

/-- The tokens of a spelled value are found. -/
theorem lexes_tokens (value : Json) {text : List Char} (ends : WordEnds text) :
    Lexes value.tokens text :=
  -- The recursion is that of the tokens; each nested value is followed by a mark.
  match value with
  | .null | .bool _ | .number _ | .string _ => lexes_singleton fun _ => ends
  | .array [] => .mark rfl (lexes_singleton nofun)
  | .array (item :: items) =>
    .mark rfl (.append (lexes_tokens item (wordEnds_itemTokens items text))
      (lexes_itemTokens items))
  | .object [] => .mark rfl (lexes_singleton nofun)
  | .object ((_, value) :: members) =>
    .mark rfl (.mark rfl (.mark rfl (.append
      (lexes_tokens value (wordEnds_memberTokens members text)) (lexes_memberTokens members))))

/-- The tokens of the further items of an array are found. -/
theorem lexes_itemTokens (items : List Json) {text : List Char} :
    Lexes (itemTokens items) text :=
  -- A comma comes before each of the items, and a bracket after the last one.
  match items with
  | [] => lexes_singleton nofun
  | item :: items =>
    .mark rfl (.append (lexes_tokens item (wordEnds_itemTokens items text))
      (lexes_itemTokens items))

/-- The tokens of the further members of an object are found. -/
theorem lexes_memberTokens (members : List (Option String × Json)) {text : List Char} :
    Lexes (memberTokens members) text :=
  -- A comma comes before each of the members, and a brace after the last one.
  match members with
  | [] => lexes_singleton nofun
  | (_, value) :: members =>
    .mark rfl (.mark rfl (.mark rfl (.append
      (lexes_tokens value (wordEnds_memberTokens members text)) (lexes_memberTokens members))))

end

/-- The tokens of a text without blanks are those of its value. -/
theorem lex?_compactText (value : Json) : lex? value.compactText = some value.tokens := by
  -- A text without blanks is the spelling of the tokens, with nothing behind them.
  have whole : Lexes value.tokens [] := lexes_tokens value nofun
  have found := whole []
  rw [List.append_nil, List.append_nil] at found
  calc lex? value.compactText
      = LexerState.readOn ⟨.between, value.tokens.reverse⟩ [] := found
    _ = some value.tokens := by simp [LexerState.readOn, LexerState.run, LexerState.finish?]

/-- Goes on reading where a value was delivered to. -/
def readBehind? (tokens : List Token) (place : Option (Awaiting × List Frame)) : Option Json :=
  place.bind fun (awaiting, frames) => readTokens? awaiting frames tokens

/-- Where a value may come or an array may end, a value is read as anywhere else. -/
theorem readTokens?_itemOrClose (value : Json) (frames : List Frame) (rest : List Token) :
    readTokens? .itemOrClose frames (value.tokens ++ rest)
      = readTokens? .value frames (value.tokens ++ rest) := by
  -- No value starts with the bracket that would end the array.
  match value with
  | .null | .bool _ | .number _ | .string _ | .array [] | .array (_ :: _) | .object []
  | .object (_ :: _) => rfl

-- Induction on the value, for any frames around it and any tokens behind it.
mutual

/-- A value is read from its tokens and delivered. -/
theorem readTokens?_tokens (value : Json) (frames : List Frame) (rest : List Token) :
    readTokens? .value frames (value.tokens ++ rest) = readBehind? rest (deliver value frames) :=
  match value with
  | .null | .bool _ | .number _ | .string _ | .array [] | .object [] => rfl
  | .array (item :: items) =>
    -- The first item is read as if it followed another one.
    calc readTokens? .value frames (tokens (.array (item :: items)) ++ rest)
        = readTokens? .itemOrClose (.array [] :: frames)
            (item.tokens ++ (itemTokens items ++ rest)) := by
          rw [← List.append_assoc]
          rfl
      _ = readTokens? .delimiter (.array [] :: frames) (itemTokens (item :: items) ++ rest) := by
          rw [readTokens?_itemOrClose, ← List.append_assoc]
          rfl
      _ = readBehind? rest (deliver (.array (item :: items)) frames) :=
          readTokens?_itemTokens (item :: items) [] frames rest
  | .object ((key, value) :: members) =>
    calc readTokens? .value frames (tokens (.object ((key, value) :: members)) ++ rest)
        = readTokens? .delimiter (.object [] :: frames)
            (memberTokens ((key, value) :: members) ++ rest) := rfl
      _ = readBehind? rest (deliver (.object ((key, value) :: members)) frames) :=
          readTokens?_memberTokens ((key, value) :: members) [] frames rest

/-- The further items of an array are read, and the array is delivered. -/
theorem readTokens?_itemTokens (items done : List Json) (frames : List Frame)
    (rest : List Token) :
    readTokens? .delimiter (.array done :: frames) (itemTokens items ++ rest)
      = readBehind? rest (deliver (.array (done.reverse ++ items)) frames) :=
  -- Items are collected in reverse until the bracket comes.
  match items with
  | [] => by
    rw [List.append_nil]
    rfl
  | item :: items =>
    calc readTokens? .delimiter (.array done :: frames) (itemTokens (item :: items) ++ rest)
        = readTokens? .value (.array done :: frames)
            (item.tokens ++ (itemTokens items ++ rest)) := by
          rw [← List.append_assoc]
          rfl
      _ = readTokens? .delimiter (.array (item :: done) :: frames) (itemTokens items ++ rest) :=
          readTokens?_tokens item (.array done :: frames) (itemTokens items ++ rest)
      _ = readBehind? rest (deliver (.array (done.reverse ++ item :: items)) frames) := by
          rw [readTokens?_itemTokens items (item :: done) frames rest, List.reverse_cons,
            List.append_assoc, List.singleton_append]

/-- The further members of an object are read, and the object is delivered. -/
theorem readTokens?_memberTokens (members done : List (Option String × Json))
    (frames : List Frame) (rest : List Token) :
    readTokens? .delimiter (.object done :: frames) (memberTokens members ++ rest)
      = readBehind? rest (deliver (.object (done.reverse ++ members)) frames) :=
  -- Members are collected in reverse until the brace comes.
  match members with
  | [] => by
    rw [List.append_nil]
    rfl
  | (key, value) :: members =>
    calc readTokens? .delimiter (.object done :: frames)
          (memberTokens ((key, value) :: members) ++ rest)
        = readTokens? .value (.member done key :: frames)
            (value.tokens ++ (memberTokens members ++ rest)) := by
          rw [← List.append_assoc]
          rfl
      _ = readTokens? .delimiter (.object ((key, value) :: done) :: frames)
            (memberTokens members ++ rest) :=
          readTokens?_tokens value (.member done key :: frames) (memberTokens members ++ rest)
      _ = readBehind? rest
            (deliver (.object (done.reverse ++ (key, value) :: members)) frames) := by
          rw [readTokens?_memberTokens members ((key, value) :: done) frames rest,
            List.reverse_cons, List.append_assoc, List.singleton_append]

end

/-- A value is read from any text that has its tokens. -/
theorem read?_of_lex? {value : Json} {text : List Char} (lexed : lex? text = some value.tokens) :
    read? text = some value := by
  -- The tokens of a value deliver it, and no token is left behind them.
  have whole := readTokens?_tokens value [] []
  rw [List.append_nil] at whole
  rw [read?, lexed, Option.bind_some, whole]
  rfl

/-- A value is read back from its text. -/
theorem read?_compactText (value : Json) : read? value.compactText = some value :=
  -- The tokens of the text are those of the value.
  read?_of_lex? (lex?_compactText value)

/-- Values with the same text are the same. -/
theorem compact_injective {a b : Json} (same : a.compact = b.compact) : a = b := by
  -- Either value is read back from the text.
  have texts : a.compactText = b.compactText := String.ofList_injective same
  have read := congrArg read? texts
  rwa [read?_compactText, read?_compactText, Option.some.injEq] at read

end Viewpoint.Json
