import Viewpoint.Proofs.Json.Reader

/-! A JSON value is read back from a text that is laid out over many lines. -/

namespace Viewpoint.Json

section

variable {tokens : List Token} {behind text : List Char}

/-- Blanks between tokens are passed over. -/
theorem ReadsAs.blanks (blanks : List Char) (blank : ∀ c ∈ blanks, isSpace c)
    (rest : ReadsAs behind tokens text) : ReadsAs (blanks ++ behind) tokens text := by
  -- The induction is on the blanks, each of which leaves the lexer where it is.
  induction blanks with
  | nil => exact rest
  | cons c blanks ih =>
    intro found
    have steps : LexerState.step ⟨.between, found⟩ c = some ⟨.between, found⟩ := by
      simp [LexerState.step, LexerState.separate, blank c List.mem_cons_self]
    rw [List.cons_append, List.cons_append, LexerState.readOn_cons steps]
    exact ih (fun c later => blank c (List.mem_cons_of_mem _ later)) found

/-- So is the start of a new line. -/
theorem ReadsAs.newLine (depth : Nat) (rest : ReadsAs behind tokens text) :
    ReadsAs (newLine depth ++ behind) tokens text := by
  -- A new line is a line break and spaces, all of which are skipped.
  refine rest.blanks _ fun c here => ?_
  rcases List.mem_cons.1 here with rfl | space
  · rfl
  · rw [List.eq_of_mem_replicate space]
    rfl

/-- A key is read with the colon and the blank that follow it. -/
theorem ReadsAs.key (key : Option String) (rest : ReadsAs behind tokens text) :
    ReadsAs (quoted key ++ ':' :: ' ' :: behind) (.string key :: .colon :: tokens) text :=
  -- The key and the colon are tokens, and the space is skipped.
  .mark (.string key) rfl (.mark .colon rfl (rest.blanks [' '] (by simp [isSpace])))

end

/-- What follows an item of an array does not continue a word. -/
theorem wordEnds_itemsLayout (depth : Nat) (items : List Json) (text : List Char) :
    WordEnds (itemsLayout depth items ++ text) := by
  -- It is a comma, or the line break in front of the bracket.
  cases items <;> exact fun _ here => Option.mem_some_iff.1 here ▸ rfl

/-- What follows a member of an object does not continue a word. -/
theorem wordEnds_membersLayout (depth : Nat) (members : List (Option String × Json))
    (text : List Char) : WordEnds (membersLayout depth members ++ text) := by
  -- It is a comma, or the line break in front of the brace.
  cases members <;> exact fun _ here => Option.mem_some_iff.1 here ▸ rfl

-- Induction on the value, for any depth. Blanks stand between tokens only, so the tokens are those
-- of the text without blanks.
mutual

/-- A value is read from its layout as from its tokens. -/
theorem readsAs_layout (depth : Nat) (value : Json) {text : List Char} (ends : WordEnds text) :
    ReadsAs (value.layout depth) value.tokens text :=
  -- The recursion is that of the layout; each nested value is followed by what ends a word.
  match value with
  | .null => readsAs_spelling .null fun _ => ends
  | .bool value => readsAs_spelling (.bool value) fun _ => ends
  | .number numeral => readsAs_spelling (.number numeral) fun _ => ends
  | .string content => readsAs_spelling (.string content) fun _ => ends
  | .array [] => .mark .openArray rfl (readsAs_spelling .closeArray nofun)
  | .array (item :: items) =>
    .mark .openArray rfl (.newLine (depth + 1) (.append
      (readsAs_layout (depth + 1) item (wordEnds_itemsLayout depth items text))
      (readsAs_itemsLayout depth items)))
  | .object [] => .mark .openObject rfl (readsAs_spelling .closeObject nofun)
  | .object ((key, value) :: members) =>
    .mark .openObject rfl (.newLine (depth + 1) (.key key (.append
      (readsAs_layout (depth + 1) value (wordEnds_membersLayout depth members text))
      (readsAs_membersLayout depth members))))

/-- The further items of an array are read from their layout. -/
theorem readsAs_itemsLayout (depth : Nat) (items : List Json) {text : List Char} :
    ReadsAs (itemsLayout depth items) (itemTokens items) text :=
  -- Each item stands on a line of its own, and so does the bracket after the last one.
  match items with
  | [] => .newLine depth (readsAs_spelling .closeArray nofun)
  | item :: items =>
    .mark .comma rfl (.newLine (depth + 1) (.append
      (readsAs_layout (depth + 1) item (wordEnds_itemsLayout depth items text))
      (readsAs_itemsLayout depth items)))

/-- The further members of an object are read from their layout. -/
theorem readsAs_membersLayout (depth : Nat) (members : List (Option String × Json))
    {text : List Char} : ReadsAs (membersLayout depth members) (memberTokens members) text :=
  -- Each member stands on a line of its own, and so does the brace after the last one.
  match members with
  | [] => .newLine depth (readsAs_spelling .closeObject nofun)
  | (key, value) :: members =>
    .mark .comma rfl (.newLine (depth + 1) (.key key (.append
      (readsAs_layout (depth + 1) value (wordEnds_membersLayout depth members text))
      (readsAs_membersLayout depth members))))

end

/-- A value is read back from its layout, with the line ended behind it. -/
theorem read?_layout (value : Json) : read? (value.layout 0 ++ ['\n']) = some value := by
  -- The line break at the end adds no token.
  have ends : WordEnds ['\n'] := fun _ here => Option.mem_some_iff.1 here ▸ rfl
  have whole := readsAs_layout 0 value ends
  have lexed : lex? (value.layout 0 ++ ['\n']) = some value.tokens := by
    calc lex? (value.layout 0 ++ ['\n'])
        = LexerState.readOn ⟨.between, value.tokens.reverse ++ []⟩ ['\n'] := whole []
      _ = some value.tokens := by
        simp [LexerState.readOn, LexerState.run, LexerState.step, LexerState.separate, isSpace,
          LexerState.finish?]
  exact read?_of_lex? lexed

end Viewpoint.Json
