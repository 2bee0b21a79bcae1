import ParamSchema.Json.NumberLiteral
import ParamSchema.Json.StringLiteral

/-!
Contract: the tokens of a JSON text.

Owns:
- the tokens, among them the ones at which reading stops;
- splitting a text into tokens; a token that cannot be finished is the last.

Does not own: the order in which tokens may come (`Json.Draft`).
-/

namespace ParamSchema.Json

/-- A scalar that is not a string, as far as its text determines it. -/
inductive Scalar where
  | null
  | boolean (value : Bool)
  | number (reading : Except Fault Number)

inductive Token where
  | comma
  | colon
  | openList
  | closeList
  | openObject
  | closeObject
  | scalar (value : Scalar)
  | string (reading : Except Fault String)
  /-- A string literal that does not end well. -/
  | brokenString (stop : Stop)
  /-- Text that starts no token, or a number or keyword that goes wrong. -/
  | broken (stop : Stop)

namespace Token

/-- Blanks stand between tokens. -/
def isBlank (character : Char) : Bool :=
  character == ' ' || character == '\t' || character == '\n' || character == '\r'

/-- What is left behind the expected letters of a keyword. -/
def keyword : List Char → List Char → Except Fault (List Char)
  | [], text => .ok text
  | _, [] => .error .endInValue
  | expected :: letters, character :: rest =>
      if expected = character then keyword letters rest else .error .expectedIdent

/-- A keyword after its first letter. -/
def ofKeyword (value : Scalar) (letters text : List Char) : Token × List Char :=
  match keyword letters text with
  | .ok rest => (.scalar value, rest)
  | .error fault => (.broken (.same fault), [])

/-- A number after its sign. -/
def ofNumber (negative : Bool) (text : List Char) : Token × List Char :=
  match numeral negative text with
  | .ok (numeral, rest) => (.scalar (.number (numberOf numeral)), rest)
  | .error stop => (.broken stop, [])

/-- A string after its opening quote. -/
def ofString (text : List Char) : Token × List Char :=
  let split := pieces text
  match split.2 with
  | .closed rest => (.string (pieceText split), rest)
  | ending =>
      match pieceText split with
      | .error fault => (.brokenString ⟨fault, ending.fault⟩, [])
      | .ok _ => (.brokenString (.same ending.fault), [])

/-- The token that starts with a character, and the text behind it. -/
def next (first : Char) (rest : List Char) : Token × List Char :=
  if first = ',' then (.comma, rest)
  else if first = ':' then (.colon, rest)
  else if first = '[' then (.openList, rest)
  else if first = ']' then (.closeList, rest)
  else if first = '\x7b' then (.openObject, rest)
  else if first = '\x7d' then (.closeObject, rest)
  else if first = '"' then ofString rest
  else if first = '-' then ofNumber true rest
  else if first.isDigit then ofNumber false (first :: rest)
  else if first = 'n' then ofKeyword .null ['u', 'l', 'l'] rest
  else if first = 't' then ofKeyword (.boolean true) ['r', 'u', 'e'] rest
  else if first = 'f' then ofKeyword (.boolean false) ['a', 'l', 's', 'e'] rest
  else (.broken (.same .expectedValue), [])

end Token

/-! ## Progress -/

/-- A split of a text leaves a part of it. -/
def Leaves {α : Type} (text : List Char) (bound : Nat) : Except Stop (α × List Char) → Prop
  | .ok (_, rest) => rest.length + bound ≤ text.length
  | .error _ => True

theorem length_dropWhile_lt {test : Char → Bool} {text : List Char}
    (taken : text.takeWhile test ≠ []) :
    (text.dropWhile test).length < text.length := by
  cases text with
  | nil => simp at taken
  | cons head tail =>
      simp only [List.takeWhile_cons, List.dropWhile_cons] at *
      split
      · have tailLe := (List.dropWhile_suffix test : tail.dropWhile test <:+ tail).length_le
        simp only [List.length_cons]
        omega
      · simp_all

theorem leaves_wholeDigits (text : List Char) : Leaves text 1 (wholeDigits text) := by
  unfold wholeDigits
  split
  · trivial
  · trivial
  · rename_i first _
    have shorter := length_dropWhile_lt first
    simp only [Leaves]
    omega

theorem leaves_someDigits (text : List Char) : Leaves text 1 (someDigits text) := by
  unfold someDigits
  split
  · trivial
  · rename_i first
    have shorter := length_dropWhile_lt first
    simp only [Leaves]
    omega

theorem length_splitSign_le (text : List Char) :
    (Text.splitSign text).2.length ≤ text.length := by
  unfold Text.splitSign
  split <;> simp

theorem leaves_fractionPart (text : List Char) : Leaves text 0 (fractionPart text) := by
  unfold fractionPart
  split
  · rename_i rest
    have digits := leaves_someDigits rest
    cases found : someDigits rest with
    | error stop => trivial
    | ok split =>
        simp only [found, Leaves, Except.map, List.length_cons] at *
        omega
  · simp [Leaves]

theorem leaves_exponentPart (text : List Char) : Leaves text 0 (exponentPart text) := by
  unfold exponentPart
  split
  · simp [Leaves]
  · rename_i letter rest
    split
    · have digits := leaves_someDigits (Text.splitSign rest).2
      have signed := length_splitSign_le rest
      cases found : someDigits (Text.splitSign rest).2 with
      | error stop => simp [found, Except.map, Leaves]
      | ok split =>
          simp only [found, Leaves, Except.map, List.length_cons] at *
          omega
    · simp [Leaves]

theorem leaves_numeral (negative : Bool) (text : List Char) :
    Leaves text 1 (numeral negative text) := by
  unfold numeral
  have whole := leaves_wholeDigits text
  cases foundWhole : wholeDigits text with
  | error stop => trivial
  | ok wholeSplit =>
      have fraction := leaves_fractionPart wholeSplit.2
      simp only [bind, Except.bind]
      cases foundFraction : fractionPart wholeSplit.2 with
      | error stop => trivial
      | ok fractionSplit =>
          have exponent := leaves_exponentPart fractionSplit.2
          simp only
          cases foundExponent : exponentPart fractionSplit.2 with
          | error stop => trivial
          | ok exponentSplit =>
              simp only [foundWhole, foundFraction, foundExponent, Leaves] at *
              simp only [pure, Except.pure]
              omega

theorem length_pieces_lt (text : List Char) :
    ∀ rest, (pieces text).2 = .closed rest → rest.length < text.length := by
  fun_induction pieces text <;> simp_all [withPiece] <;> intro rest ended <;>
    rename_i inductionHypothesis <;> have shorter := inductionHypothesis rest ended <;> omega

theorem length_keyword_le (letters text : List Char) :
    ∀ rest, Token.keyword letters text = .ok rest → rest.length ≤ text.length := by
  fun_induction Token.keyword letters text <;> simp_all
  intro rest found
  rename_i inductionHypothesis
  have shorter := inductionHypothesis rest found
  omega

namespace Token

theorem length_ofKeyword_le (value : Scalar) (letters text : List Char) :
    (ofKeyword value letters text).2.length ≤ text.length := by
  unfold ofKeyword
  split
  · exact length_keyword_le _ _ _ (by assumption)
  · simp

theorem length_ofNumber_le (negative : Bool) (text : List Char) :
    (ofNumber negative text).2.length ≤ text.length - 1 := by
  unfold ofNumber
  have left := leaves_numeral negative text
  split
  · rename_i found
    simp only [found, Leaves] at left
    simp only
    omega
  · simp

theorem length_ofString_le (text : List Char) :
    (ofString text).2.length ≤ text.length := by
  unfold ofString
  simp only
  split
  · rename_i found
    exact Nat.le_of_lt (length_pieces_lt _ _ found)
  · split <;> simp

private theorem length_ite_le {condition : Prop} [Decidable condition]
    {yes no : Token × List Char} {bound : Nat}
    (yesLe : yes.2.length ≤ bound) (noLe : no.2.length ≤ bound) :
    (if condition then yes else no).2.length ≤ bound := by
  split <;> assumption

/-- A token leaves no more text than stands behind its first character. -/
theorem length_next_le (first : Char) (rest : List Char) :
    (next first rest).2.length ≤ rest.length := by
  have negative := length_ofNumber_le true rest
  have number := length_ofNumber_le false (first :: rest)
  have keyword := fun value letters => length_ofKeyword_le value letters rest
  unfold next
  repeat' apply length_ite_le
  all_goals first
    | exact Nat.le_refl _
    | exact length_ofString_le rest
    | exact number
    | exact keyword _ _
    | exact Nat.zero_le _
    | exact Nat.le_trans negative (Nat.sub_le _ _)

/-- The tokens of a text. A broken token leaves no text behind it. -/
def ofText : List Char → List Token
  | [] => []
  | first :: rest =>
      if isBlank first then ofText rest
      else (next first rest).1 :: ofText (next first rest).2
termination_by text => text.length
decreasing_by
  · simp
  · have shorter := length_next_le first rest
    simp only [List.length_cons]
    omega

end Token

end ParamSchema.Json
