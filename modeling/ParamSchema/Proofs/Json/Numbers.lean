import ParamSchema.Json.Token
import ParamSchema.Proofs.Binary64.Layout

/-!
Contract: numbers that are written and read again.

Owns:
- that the text of a canonical numeral is read as that numeral, up to what ends a number;
- the numeral that a number is written as, and what it is read as again.

Does not own: how far a number that is read again is from the one that was written.
-/

namespace ParamSchema.Json

variable {digits text rest : List Char}

/-! ## Digits -/

/-- What may stand behind a number: the end of the text, or a character that extends no number. -/
structure EndsNumber (rest : List Char) : Prop where
  noDigit : rest.takeWhile Char.isDigit = []
  noPoint : rest.head? ≠ some '.'
  noLetter : rest.head? ≠ some 'e' ∧ rest.head? ≠ some 'E'

theorem endsNumber_nil : EndsNumber [] := ⟨rfl, by simp, by simp⟩

theorem endsNumber_newline : EndsNumber ['\n'] := ⟨rfl, by simp, by simp⟩

theorem split_digits (areDigits : ∀ digit ∈ digits, digit.isDigit = true)
    (ends : rest.takeWhile Char.isDigit = []) :
    (digits ++ rest).takeWhile Char.isDigit = digits ∧
      (digits ++ rest).dropWhile Char.isDigit = rest := by
  have split := List.takeWhile_append_dropWhile (p := Char.isDigit) (l := rest)
  rw [ends, List.nil_append] at split
  rw [List.takeWhile_append_of_pos areDigits, List.dropWhile_append_of_pos areDigits, ends, split,
    List.append_nil]
  exact ⟨rfl, rfl⟩

theorem someDigits_append (areDigits : AreDigits digits)
    (ends : rest.takeWhile Char.isDigit = []) :
    someDigits (digits ++ rest) = .ok (digits, rest) := by
  obtain ⟨taken, dropped⟩ := split_digits areDigits.each ends
  unfold someDigits
  rw [taken, dropped]
  split
  · exact absurd rfl areDigits.nonempty
  · rfl

theorem wholeDigits_append (areWhole : AreWhole digits)
    (ends : rest.takeWhile Char.isDigit = []) :
    wholeDigits (digits ++ rest) = .ok (digits, rest) := by
  obtain ⟨taken, dropped⟩ := split_digits areWhole.each ends
  unfold wholeDigits
  rw [taken, dropped]
  split
  · exact absurd rfl areWhole.nonempty
  · cases areWhole.alone rfl
  · rfl

/-! ## Numerals -/

open Numeral (fractionText exponentText signText)

theorem fractionPart_append {fraction : Option (List Char)}
    (areDigits : ∀ digits, fraction = some digits → AreDigits digits)
    (noDigit : rest.takeWhile Char.isDigit = []) (noPoint : rest.head? ≠ some '.') :
    fractionPart (fractionText fraction ++ rest) = .ok (fraction, rest) := by
  cases fraction with
  | none =>
      unfold fractionPart fractionText
      rw [List.nil_append]
      split
      · exact absurd rfl noPoint
      · rfl
  | some digits =>
      rw [fractionText, List.cons_append, fractionPart, someDigits_append (areDigits _ rfl) noDigit]
      rfl

theorem exponentPart_append {exponent : Option Exponent}
    (areDigits : ∀ written, exponent = some written → AreDigits written.digits)
    (ends : EndsNumber rest) :
    exponentPart (exponentText exponent ++ rest) = .ok (exponent, rest) := by
  cases exponent with
  | none =>
      rw [exponentText, List.nil_append]
      cases rest with
      | nil => rfl
      | cons letter rest =>
          have noLetter := ends.noLetter
          simp only [List.head?_cons, ne_eq, Option.some.injEq] at noLetter
          rw [exponentPart, if_neg (not_or.mpr noLetter)]
  | some exponent =>
      obtain ⟨negative, digits⟩ := exponent
      have read := someDigits_append (areDigits _ rfl) ends.noDigit
      cases negative <;>
        simp [exponentText, exponentPart, Text.splitSign, read, Except.map]

/-- An exponent continues neither the digits nor the point in front of it. -/
theorem exponentText_ends (exponent : Option Exponent) (ends : EndsNumber rest) :
    (exponentText exponent ++ rest).takeWhile Char.isDigit = [] ∧
      (exponentText exponent ++ rest).head? ≠ some '.' := by
  cases exponent with
  | none => exact ⟨ends.noDigit, ends.noPoint⟩
  | some exponent =>
      rw [exponentText]
      exact ⟨rfl, by simp⟩

theorem numeral_append {numeral : Numeral} (canonical : numeral.Canonical)
    (ends : EndsNumber rest) :
    Json.numeral numeral.negative (numeral.unsigned ++ rest) = .ok (numeral, rest) := by
  obtain ⟨negative, whole, fraction, exponent⟩ := numeral
  obtain ⟨noDigit, noPoint⟩ := exponentText_ends exponent ends
  have endsWhole :
      (fractionText fraction ++ (exponentText exponent ++ rest)).takeWhile Char.isDigit = [] := by
    cases fraction with
    | none => exact noDigit
    | some digits =>
        rw [fractionText]
        rfl
  rw [Numeral.unsigned, List.append_assoc, List.append_assoc]
  simp only [Json.numeral, bind, Except.bind, wholeDigits_append canonical.whole endsWhole,
    fractionPart_append canonical.fraction noDigit noPoint,
    exponentPart_append canonical.exponent ends]
  rfl

/-! ## Tokens -/

theorem next_digit {first : Char} (isDigit : first.isDigit = true) (rest : List Char) :
    Token.isBlank first = false ∧ Token.next first rest = Token.ofNumber false (first :: rest) := by
  have ne {other : Char} (notDigit : other.isDigit = false) : first ≠ other := by
    rintro rfl
    rw [isDigit] at notDigit
    cases notDigit
  constructor
  · have notSpace : first ≠ ' ' := ne rfl
    have notTab : first ≠ '\t' := ne rfl
    have notNewline : first ≠ '\n' := ne rfl
    have notReturn : first ≠ '\r' := ne rfl
    simp [Token.isBlank, notSpace, notTab, notNewline, notReturn]
  · unfold Token.next
    rw [if_neg (ne rfl), if_neg (ne rfl), if_neg (ne rfl), if_neg (ne rfl), if_neg (ne rfl),
      if_neg (ne rfl), if_neg (ne rfl), if_neg (ne rfl), if_pos isDigit]

/-- A canonical numeral is one token, whatever ends it. -/
theorem ofText_numeral {numeral : Numeral} (canonical : numeral.Canonical)
    (ends : EndsNumber rest) :
    Token.ofText (numeral.written ++ rest) =
      .scalar (.number (numberOf numeral)) :: Token.ofText rest := by
  have read : Token.ofNumber numeral.negative (numeral.unsigned ++ rest) =
      (.scalar (.number (numberOf numeral)), rest) := by
    rw [Token.ofNumber, numeral_append canonical ends]
  cases negative : numeral.negative with
  | true =>
      rw [negative] at read
      have next : Token.next '-' (numeral.unsigned ++ rest) =
          Token.ofNumber true (numeral.unsigned ++ rest) := rfl
      rw [Numeral.written, negative]
      change Token.ofText ('-' :: (numeral.unsigned ++ rest)) = _
      rw [Token.ofText, if_neg (by decide), next, read]
  | false =>
      rw [negative] at read
      obtain ⟨first, others, digits⟩ := List.exists_cons_of_ne_nil canonical.whole.nonempty
      have isDigit : first.isDigit = true :=
        canonical.whole.each first (by rw [digits]; exact List.mem_cons_self)
      rw [Numeral.written, negative]
      change Token.ofText (numeral.unsigned ++ rest) = _
      rw [Numeral.unsigned, digits, List.cons_append, List.cons_append] at read ⊢
      obtain ⟨notBlank, next⟩ := next_digit isDigit
        (others ++ (fractionText numeral.fraction ++ exponentText numeral.exponent) ++ rest)
      rw [Token.ofText, notBlank, if_neg Bool.false_ne_true, next, read]

/-! ## Numbers -/

/-- The numeral of an integer. -/
def integerNumeral (value : Int) : Numeral :=
  ⟨decide (value < 0), Nat.toDigits 10 value.natAbs, none, none⟩

theorem integerNumeral_canonical (value : Int) : (integerNumeral value).Canonical where
  whole := areWhole_toDigits _
  fraction := by rintro _ ⟨⟩
  exponent := by rintro _ ⟨⟩

theorem toList_integer (value : Int) :
    (Text.integer value).toList = (integerNumeral value).written := by
  by_cases negative : value < 0 <;>
    simp [Text.integer, integerNumeral, negative, Numeral.written, Numeral.unsigned, signText,
      fractionText, exponentText, Nat.toList_repr]

theorem Number.exists_numeral (number : Number) :
    ∃ numeral : Numeral, numeral.Canonical ∧ number.text.toList = numeral.written := by
  cases number with
  | integer value => exact ⟨_, integerNumeral_canonical value, toList_integer value⟩
  | float value finite => exact Binary64.exists_numeral_of_json finite

/-- What the text of a number is read as when it stands by itself. -/
def Number.reread (number : Number) : Except Fault Number :=
  match Token.ofText number.text.toList with
  | [.scalar (.number reading)] => reading
  | _ => .error .invalidNumber

theorem reread_eq {number : Number} {numeral : Numeral} (canonical : numeral.Canonical)
    (written : number.text.toList = numeral.written) : number.reread = numberOf numeral := by
  have read := ofText_numeral canonical endsNumber_nil
  rw [List.append_nil] at read
  rw [Number.reread, written, read, Token.ofText]

/-- A number in a text is one token, and is read as it is by itself. -/
theorem ofText_number (number : Number) (ends : EndsNumber rest) :
    Token.ofText (number.text.toList ++ rest) =
      .scalar (.number number.reread) :: Token.ofText rest := by
  obtain ⟨numeral, canonical, written⟩ := number.exists_numeral
  rw [written, reread_eq canonical written, ofText_numeral canonical ends]

theorem newline_not_mem_number (number : Number) : '\n' ∉ number.text.toList := by
  obtain ⟨numeral, canonical, written⟩ := number.exists_numeral
  rw [written]
  exact canonical.newline_not_mem

end ParamSchema.Json
