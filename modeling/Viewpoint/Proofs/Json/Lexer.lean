import Viewpoint.Json.Lexer
import Viewpoint.Json.Writer
import Viewpoint.Proofs.Json.Numeral

/-! Spelled tokens are found again by the lexer. -/

namespace Viewpoint.Json

/-- The token is spelled as a word, which only a blank, a quote or a mark can end. -/
def Token.isWord : Token → Bool
  | .null | .bool _ | .number _ => true
  | _ => false

/-- The piece between quotes that a written character is read as. -/
def pieceOf (c : Char) : Piece :=
  if c.toNat < 0x20 ∧ c ∉ ['\x08', '\x0c', '\n', '\r', '\t'] then .unit c.toNat else .char c

/-- A control that has no letter of its own stands for itself when it is given by its number. -/
theorem assemble_pieceOf (c : Char) (pieces : List Piece) :
    assemble none (pieceOf c :: pieces) = (assemble none pieces).map (c :: ·) := by
  -- A control lies far below the surrogates, so its unit is a character by itself.
  unfold pieceOf
  split
  case isFalse => rfl
  case isTrue control =>
    have whole : ¬ isHighSurrogate c.toNat ∧ ¬ isLowSurrogate c.toNat := by
      simp only [isHighSurrogate, isLowSurrogate, Bool.and_eq_true, decide_eq_true_eq]
      omega
    rw [assemble, if_neg whole.1, if_neg whole.2, Char.ofNat_toNat]

/-- The characters of a text are put together from the pieces that they are read as. -/
theorem contentOf_map_pieceOf (content : String) :
    contentOf (content.toList.map pieceOf) = some content := by
  -- Each piece gives its own character, so none waits for a second half at the end.
  have assembled : ∀ chars : List Char, assemble none (chars.map pieceOf) = some chars := by
    intro chars
    induction chars with
    | nil => rfl
    | cons c chars ih => rw [List.map_cons, assemble_pieceOf, ih, Option.map_some]
  rw [contentOf, assembled, Option.map_some, String.ofList_toList]

/-- The text does not go on with a character of a word. -/
def WordEnds (text : List Char) : Prop :=
  ∀ c ∈ text.head?, LexerState.endsWord c

/-- The characters that end a word. -/
theorem mem_of_endsWord {c : Char} (ends : LexerState.endsWord c) :
    c ∈ [' ', '\t', '\n', '\r', '"', '[', ']', '\x7b', '\x7d', ':', ','] := by
  -- Words end at blanks, at quotes and at the marks that are tokens by themselves.
  simp only [LexerState.endsWord, Bool.or_eq_true] at ends
  rcases ends with (space | quote) | mark
  · simp only [isSpace, Bool.or_eq_true, beq_iff_eq] at space
    rcases space with ((rfl | rfl) | rfl) | rfl <;> decide
  · rw [beq_iff_eq.1 quote]
    decide
  · revert mark
    unfold markToken?
    split <;> first | decide | exact nofun

/-- No character of a numeral ends a word. -/
theorem endsWord_numeral (numeral : Numeral) :
    ∀ c ∈ numeral.text, LexerState.endsWord c = false := by
  -- None of the characters that end words is one that numerals are made of.
  intro c here
  refine Bool.eq_false_iff.2 fun ends => ?_
  have foreign : [' ', '\t', '\n', '\r', '"', '[', ']', '\x7b', '\x7d', ':', ','].all
      fun c => !Numeral.isNumeralChar c := by decide
  have other := List.all_eq_true.1 foreign c (mem_of_endsWord ends)
  rw [numeral.isNumeralChar_text c here] at other
  cases other

/-- A numeral is the word of its number. -/
theorem wordToken?_numeral (numeral : Numeral) :
    wordToken? numeral.text = some (.number numeral) := by
  -- Each of the names has a letter that no numeral has.
  have plain : ∀ {word : String}, (word.toList.all Numeral.isNumeralChar = false) →
      numeral.text ≠ word.toList := by
    intro word foreign same
    rw [← same, List.all_eq_true.2 numeral.isNumeralChar_text] at foreign
    cases foreign
  rw [wordToken?, if_neg (plain rfl), if_neg (plain rfl), if_neg (plain rfl), Numeral.read?_text,
    Option.map_some]

namespace LexerState

/-- The tokens of a text that is read from the given state on. -/
def readOn (state : LexerState) (text : List Char) : Option (List Token) :=
  (state.run text).bind finish?

variable {state next : LexerState} {found : List Token} {token : Token} {c : Char}
  {word collected text : List Char} {pieces : List Piece}

/-- Reading goes on from the state that the next character leads to. -/
theorem readOn_cons (steps : state.step c = some next) :
    state.readOn (c :: text) = next.readOn text := by
  -- To read on is to step through the characters one by one.
  rw [readOn, run, steps, Option.bind_some, readOn]

/-- Between tokens, a character that ends no word begins one. -/
theorem step_between_of_not_endsWord (found : List Token) (plain : endsWord c = false) :
    step ⟨.between, found⟩ c = some ⟨.word [c], found⟩ := by
  -- The character is no blank, no quote and no mark, so only a word is left.
  simp only [endsWord, Bool.or_eq_false_iff, Option.isSome_eq_false_iff,
    Option.isNone_iff_eq_none] at plain
  obtain ⟨⟨inked, unquoted⟩, markless⟩ := plain
  have unquoted : c ≠ '"' := by simpa using unquoted
  simp only [step, separate, inked, unquoted, markless, Bool.false_eq_true, if_false]

/-- A word can be searched for characters that would end it. -/
theorem not_endsWord_of_any (none : word.any endsWord = false) :
    ∀ c ∈ word, endsWord c = false :=
  -- The search would have found such a character.
  fun c here => Bool.eq_false_iff.2 (List.any_eq_false.1 none c here)

/-- The characters of a word are collected. -/
theorem readOn_word_append (plain : ∀ c ∈ word, endsWord c = false) :
    readOn ⟨.word collected, found⟩ (word ++ text)
      = readOn ⟨.word (word.reverse ++ collected), found⟩ text := by
  -- The induction is on the rest of the word, for any characters collected before.
  induction word generalizing collected with
  | nil => rfl
  | cons c word ih =>
    have here : step ⟨.word collected, found⟩ c = some ⟨.word (c :: collected), found⟩ := by
      simp [step, plain c List.mem_cons_self]
    rw [List.cons_append, readOn_cons here,
      ih fun c later => plain c (List.mem_cons_of_mem _ later), List.reverse_cons,
      List.append_assoc, List.singleton_append]

/-- A word that ends is found, as if the lexer stood behind it. -/
theorem readOn_word (spells : wordToken? collected.reverse = some token) (ends : WordEnds text) :
    readOn ⟨.word collected, found⟩ text = readOn ⟨.between, token :: found⟩ text := by
  cases text with
  | nil => simp [readOn, run, finish?, spells]
  | cons c text =>
    -- The character that ends the word is read as between tokens.
    have ending : endsWord c := ends c rfl
    have steps : step ⟨.word collected, found⟩ c = some (separate (token :: found) c) := by
      simp [step, ending, spells]
    have between : step ⟨.between, token :: found⟩ c = some (separate (token :: found) c) := rfl
    rw [readOn_cons steps, readOn_cons between]

/-- A token that is spelled as a word is found where the word ends. -/
theorem readOn_append_word (plain : ∀ c ∈ word, endsWord c = false)
    (spells : wordToken? word = some token) (ends : WordEnds text) :
    readOn ⟨.between, found⟩ (word ++ text) = readOn ⟨.between, token :: found⟩ text := by
  -- The first character begins the word, and the others are collected.
  cases word with
  | nil =>
    rw [show wordToken? [] = none by decide] at spells
    cases spells
  | cons c word =>
    have first := step_between_of_not_endsWord found (plain c List.mem_cons_self)
    rw [List.cons_append, readOn_cons first,
      readOn_word_append fun c later => plain c (List.mem_cons_of_mem _ later)]
    exact readOn_word (by simpa using spells) ends

/-- A hexadecimal digit is read as its value. -/
theorem hexDigit?_digitChar : ∀ digit < 16, hexDigit? (Nat.digitChar digit) = some digit := by
  -- There are sixteen digits.
  decide

/-- The escape of a control by its number is read as that unit. -/
theorem readOn_unit {code : Nat} (small : code < 256) :
    readOn ⟨.quoted pieces, found⟩ ('\\' :: 'u' :: '0' :: '0' :: hexPair code ++ text)
      = readOn ⟨.quoted (.unit code :: pieces), found⟩ text := by
  -- The two zeros and the two digits make up the code of the control.
  have high := hexDigit?_digitChar (code / 16 % 16) (by omega)
  have low := hexDigit?_digitChar (code % 16) (by omega)
  have zero : hexDigit? '0' = some 0 := by decide
  have whole : code / 16 % 16 * 16 + code % 16 = code := by omega
  simp [readOn, run, step, hexPair, high, low, zero, whole]

/-- A character between quotes is read as its piece. -/
theorem readOn_quotedChar (c : Char) :
    readOn ⟨.quoted pieces, found⟩ (quotedChar c ++ text)
      = readOn ⟨.quoted (pieceOf c :: pieces), found⟩ text := by
  unfold quotedChar
  split
  -- The seven characters with a letter of their own are read by computation.
  iterate 7 rfl
  case h_8 unquoted unescaped noBack noFeed noLine noReturn noTab =>
    by_cases control : c.toNat < 0x20
    · have letterless : c ∉ ['\x08', '\x0c', '\n', '\r', '\t'] := by
        simp only [List.mem_cons, List.not_mem_nil, or_false, not_or]
        exact ⟨noBack, noFeed, noLine, noReturn, noTab⟩
      rw [if_pos control, readOn_unit (by omega), pieceOf, if_pos ⟨control, letterless⟩]
    · have steps : step ⟨.quoted pieces, found⟩ c
          = some ⟨.quoted (.char c :: pieces), found⟩ := by
        simp only [step]
        rw [if_neg unquoted, if_neg unescaped, if_neg control]
      rw [if_neg control, pieceOf, if_neg fun both => control both.1]
      exact readOn_cons steps

/-- The characters between quotes are read as their pieces. -/
theorem readOn_flatMap_quotedChar (chars : List Char) :
    readOn ⟨.quoted pieces, found⟩ (chars.flatMap quotedChar ++ text)
      = readOn ⟨.quoted ((chars.map pieceOf).reverse ++ pieces), found⟩ text := by
  -- The induction is on the characters, for any pieces that were read before.
  induction chars generalizing pieces with
  | nil => rfl
  | cons c chars ih =>
    rw [List.flatMap_cons, List.append_assoc, readOn_quotedChar, ih, List.map_cons,
      List.reverse_cons, List.append_assoc, List.singleton_append]

/-- A text between quotes is found, also one without content. -/
theorem readOn_quoted (content : Option String) :
    readOn ⟨.between, found⟩ (quoted content ++ text)
      = readOn ⟨.between, .string content :: found⟩ text := by
  -- The quotes open and close the text, and between them each character is read as a piece.
  cases content with
  | none => rfl
  | some content =>
    have opens : step ⟨.between, found⟩ '"' = some ⟨.quoted [], found⟩ := rfl
    have closes : step ⟨.quoted (content.toList.map pieceOf).reverse, found⟩ '"'
        = some ⟨.between, .string (some content) :: found⟩ := by
      simp [step, contentOf_map_pieceOf]
    simp only [quoted]
    rw [List.cons_append, readOn_cons opens, List.append_assoc, readOn_flatMap_quotedChar,
      List.append_nil, List.singleton_append, readOn_cons closes]

/-- A spelled token is found; a word has to end where its spelling ends. -/
theorem readOn_spelling (token : Token) (ends : token.isWord → WordEnds text) :
    readOn ⟨.between, found⟩ (token.spelling ++ text)
      = readOn ⟨.between, token :: found⟩ text := by
  -- Marks are found at once, texts are found by their quotes, and all others are words.
  cases token with
  | openArray | closeArray | openObject | closeObject | colon | comma => rfl
  | null => exact readOn_append_word (not_endsWord_of_any rfl) rfl (ends rfl)
  | bool value =>
    cases value <;> exact readOn_append_word (not_endsWord_of_any rfl) rfl (ends rfl)
  | number numeral =>
    exact readOn_append_word (endsWord_numeral numeral) (wordToken?_numeral numeral)
      (ends rfl)
  | string content => exact readOn_quoted content

end LexerState

end Viewpoint.Json
