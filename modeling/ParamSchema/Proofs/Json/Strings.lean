import ParamSchema.Json.Token

/-!
Contract: string literals that are written and read again.

Owns:
- that the escape of a character is read as that character, whatever stands behind it;
- that a literal is read as its text, up to its closing quote and not beyond;
- that no literal holds a newline.

Does not own: literals with escapes that are never written, such as surrogates.
-/

namespace ParamSchema.Json

/-! ## Escapes -/

/-- A piece that gives one character more to the pieces behind it. -/
def Piece.StandsFor (piece : Piece) (character : Char) : Prop :=
  ∀ ending rest, combine ending (piece :: rest) = (combine ending rest).map (character :: ·)

theorem Piece.plain_standsFor (character : Char) : (Piece.plain character).StandsFor character :=
  fun _ _ => rfl

/-- Below the surrogates, a unit stands for the character of its number. -/
theorem Piece.unit_standsFor {code : Nat} (small : code < 0x20) :
    (Piece.unit code).StandsFor (Char.ofNat code) := by
  intro ending rest
  have notTrailing : isTrailing code = false := by
    simp only [isTrailing, Bool.and_eq_false_iff, decide_eq_false_iff_not]
    omega
  have notLeading : isLeading code = false := by
    simp only [isLeading, Bool.and_eq_false_iff, decide_eq_false_iff_not]
    omega
  rw [combine.eq_def]
  simp only [notTrailing, notLeading, if_neg Bool.false_ne_true]

theorem pieces_letter {letter character : Char} (notUnit : letter ≠ 'u')
    (escapes : escaped? letter = some character) (rest : List Char) :
    pieces ('\\' :: letter :: rest) = withPiece (.plain character) (pieces rest) := by
  rw [pieces.eq_def]
  simp only [if_neg notUnit, escapes]

theorem pieces_unit {first second third fourth : Char} {code : Nat}
    (value : unitValue? first second third fourth = some code) (rest : List Char) :
    pieces ('\\' :: 'u' :: first :: second :: third :: fourth :: rest) =
      withPiece (.unit code) (pieces rest) := by
  have enough : fewerThanFourBytes (first :: second :: third :: fourth :: rest) = false := by
    have firstSize := first.utf8Size_pos
    have secondSize := second.utf8Size_pos
    have thirdSize := third.utf8Size_pos
    have fourthSize := fourth.utf8Size_pos
    have bytes : ¬0 + first.utf8Size + second.utf8Size + third.utf8Size + fourth.utf8Size < 4 := by
      omega
    simpa [fewerThanFourBytes] using bytes
  rw [pieces.eq_4, if_pos rfl, if_neg (by simp [enough])]
  simp only [value]

theorem pieces_plain {character : Char} (notQuote : character ≠ '"')
    (notBackslash : character ≠ '\\') (notControl : ¬character.toNat < 0x20) (rest : List Char) :
    pieces (character :: rest) = withPiece (.plain character) (pieces rest) := by
  rw [pieces.eq_6 character rest notQuote (fun same => absurd same notBackslash)
    (fun _ _ same => absurd same notBackslash), if_neg notControl]

theorem unitValue?_hexDigit : ∀ code < 0x20,
    unitValue? '0' '0' (hexDigit (code / 16)) (hexDigit code) = some code := by
  decide

/-- A character is written as a backslash with a letter, as the unit of a control character, or as
itself. -/
theorem escape_cases (character : Char) :
    (∃ letter, escape character = ['\\', letter] ∧ letter ≠ 'u' ∧
      escaped? letter = some character) ∨
    (character.toNat < 0x20 ∧ escape character =
      ['\\', 'u', '0', '0', hexDigit (character.toNat / 16), hexDigit character.toNat]) ∨
    (escape character = [character] ∧ character ≠ '"' ∧ character ≠ '\\' ∧
      ¬character.toNat < 0x20) := by
  by_cases named : character ∈ ['"', '\\', '\x08', '\x0c', '\n', '\r', '\t']
  · left
    simp only [List.mem_cons, List.not_mem_nil, or_false] at named
    rcases named with rfl | rfl | rfl | rfl | rfl | rfl | rfl
    all_goals exact ⟨_, rfl, by decide, rfl⟩
  · right
    simp only [List.mem_cons, List.not_mem_nil, or_false, not_or] at named
    obtain ⟨quote, backslash, backspace, formFeed, newline, carriageReturn, tab⟩ := named
    unfold escape
    rw [if_neg quote, if_neg backslash, if_neg backspace, if_neg formFeed, if_neg newline,
      if_neg carriageReturn, if_neg tab]
    by_cases control : character.toNat < 0x20
    · exact .inl ⟨control, if_pos control⟩
    · exact .inr ⟨if_neg control, quote, backslash, control⟩

/-- The escape of a character is one piece, and that piece stands for the character. -/
theorem exists_piece (character : Char) : ∃ piece : Piece, piece.StandsFor character ∧
    ∀ rest, pieces (escape character ++ rest) = withPiece piece (pieces rest) := by
  rcases escape_cases character with
    ⟨letter, written, notUnit, escapes⟩ | ⟨control, written⟩ | ⟨written, quote, backslash, control⟩
  · rw [written]
    exact ⟨_, Piece.plain_standsFor character, pieces_letter notUnit escapes⟩
  · rw [written]
    refine ⟨.unit character.toNat, ?_, pieces_unit (unitValue?_hexDigit _ control)⟩
    have standsFor := Piece.unit_standsFor control
    rwa [Char.ofNat_toNat] at standsFor
  · rw [written]
    exact ⟨_, Piece.plain_standsFor character, pieces_plain quote backslash control⟩

theorem newline_ne_hexDigit : ∀ code < 0x20,
    '\n' ≠ hexDigit (code / 16) ∧ '\n' ≠ hexDigit code := by
  decide

theorem newline_not_mem_escape (character : Char) : '\n' ∉ escape character := by
  rcases escape_cases character with
    ⟨letter, written, -, escapes⟩ | ⟨control, written⟩ | ⟨written, -, -, control⟩
  · rw [written]
    have notNewline : letter ≠ '\n' := by
      rintro rfl
      cases escapes
    simp [notNewline.symm]
  · rw [written]
    have digits := newline_ne_hexDigit _ control
    simp [digits.1, digits.2]
  · rw [written, List.mem_singleton]
    rintro rfl
    exact control (by decide)

/-! ## Literals -/

/-- The text of a literal behind its opening quote, as it is written. -/
theorem pieces_literal (text rest : List Char) :
    ∃ found, pieces (text.flatMap escape ++ '"' :: rest) = (found, .closed rest) ∧
      ∀ behind, combine (.closed behind) found = .ok text := by
  induction text with
  | nil => exact ⟨[], pieces.eq_2 rest, fun _ => rfl⟩
  | cons character text inductionHypothesis =>
      obtain ⟨found, split, combined⟩ := inductionHypothesis
      obtain ⟨piece, standsFor, first⟩ := exists_piece character
      refine ⟨piece :: found, ?_, fun behind => ?_⟩
      · rw [List.flatMap_cons, List.append_assoc, first, split]
        rfl
      · rw [standsFor, combined]
        rfl

/-- A literal is read as the text it was written for, and reading stops behind it. -/
theorem ofString_literal (text : String) (rest : List Char) :
    Token.ofString (text.toList.flatMap escape ++ '"' :: rest) = (.string (.ok text), rest) := by
  obtain ⟨found, split, combined⟩ := pieces_literal text.toList rest
  rw [Token.ofString, split]
  simp only [pieceText, combined, Except.map, String.ofList_toList]

theorem toList_quote (text : String) :
    (quote text).toList = '"' :: (text.toList.flatMap escape ++ ['"']) := by
  simp [quote]

theorem newline_not_mem_quote (text : String) : '\n' ∉ (quote text).toList := by
  rw [toList_quote]
  simp [newline_not_mem_escape]

end ParamSchema.Json
