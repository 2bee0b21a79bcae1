import Mathlib.Data.List.Basic
import Mathlib.Tactic.IntervalCases
import ParamSchema.Numeral

/-!
Contract: numerals as they are written.

Owns:
- the text of a numeral;
- the numerals that are written with a digit wherever one is due and no needless zero in front;
- that natural numbers have such digits.

Does not own: reading a text as a numeral (`Numeral`, `Json.NumberLiteral`), and which numerals
numbers are written as.
-/

namespace ParamSchema

/-- One or more digits. -/
structure AreDigits (digits : List Char) : Prop where
  nonempty : digits ≠ []
  each : ∀ digit ∈ digits, digit.isDigit = true

/-- Digits in front of a point: a zero stands first only by itself. -/
structure AreWhole (digits : List Char) : Prop extends AreDigits digits where
  alone : digits.head? = some '0' → digits = ['0']

namespace AreDigits

variable {digits others : List Char}

theorem append (left : AreDigits digits) (right : ∀ digit ∈ others, digit.isDigit = true) :
    AreDigits (digits ++ others) where
  nonempty := List.append_ne_nil_of_left_ne_nil left.nonempty _
  each := List.forall_mem_append.mpr ⟨left.each, right⟩

theorem newline_not_mem (areDigits : AreDigits digits) : '\n' ∉ digits :=
  fun held => absurd (areDigits.each _ held) (by decide)

/-- Digits that do not start with a zero may stand in front of a point. -/
theorem whole (areDigits : AreDigits digits) (leading : digits.head? ≠ some '0') :
    AreWhole digits where
  toAreDigits := areDigits
  alone first := absurd first leading

end AreDigits

theorem areDigits_toDigits (value : Nat) : AreDigits (Nat.toDigits 10 value) where
  nonempty := Nat.toDigits_ne_nil
  each _ := Nat.isDigit_of_mem_toDigits (by decide) (by decide)

theorem head?_toDigits {value : Nat} (positive : 0 < value) :
    (Nat.toDigits 10 value).head? ≠ some '0' := by
  induction value using Nat.strong_induction_on with
  | _ value inductionHypothesis =>
      by_cases small : value < 10
      · rw [Nat.toDigits_of_lt_base small]
        interval_cases value <;> decide
      · have large : 10 ≤ value := Nat.le_of_not_lt small
        rw [Nat.toDigits_of_base_le (by decide) large,
          List.head?_append_of_ne_nil _ Nat.toDigits_ne_nil]
        exact inductionHypothesis (value / 10) (by omega) (by omega)

theorem areWhole_toDigits (value : Nat) : AreWhole (Nat.toDigits 10 value) where
  toAreDigits := areDigits_toDigits value
  alone first := by
    cases value with
    | zero => rfl
    | succ value => exact absurd first (head?_toDigits (Nat.succ_pos value))

namespace Numeral

def signText (negative : Bool) : List Char :=
  if negative then ['-'] else []

def fractionText : Option (List Char) → List Char
  | none => []
  | some digits => '.' :: digits

def exponentText : Option Exponent → List Char
  | none => []
  | some exponent => 'e' :: (if exponent.negative then '-' else '+') :: exponent.digits

/-- The text of a numeral behind its sign. -/
def unsigned (numeral : Numeral) : List Char :=
  numeral.whole ++ (fractionText numeral.fraction ++ exponentText numeral.exponent)

def written (numeral : Numeral) : List Char :=
  signText numeral.negative ++ numeral.unsigned

/-- What makes the text of a numeral a number of JSON. -/
structure Canonical (numeral : Numeral) : Prop where
  whole : AreWhole numeral.whole
  fraction : ∀ digits, numeral.fraction = some digits → AreDigits digits
  exponent : ∀ exponent, numeral.exponent = some exponent → AreDigits exponent.digits

theorem Canonical.newline_not_mem {numeral : Numeral} (canonical : numeral.Canonical) :
    '\n' ∉ numeral.written := by
  have inWhole := canonical.whole.newline_not_mem
  have inFraction : '\n' ∉ fractionText numeral.fraction := by
    cases present : numeral.fraction with
    | none => exact List.not_mem_nil
    | some digits => simpa [fractionText] using (canonical.fraction digits present).newline_not_mem
  have inExponent : '\n' ∉ exponentText numeral.exponent := by
    cases present : numeral.exponent with
    | none => exact List.not_mem_nil
    | some exponent =>
        have inDigits := (canonical.exponent exponent present).newline_not_mem
        cases negative : exponent.negative <;> simpa [exponentText, negative] using inDigits
  have inSign : '\n' ∉ signText numeral.negative := by
    cases numeral.negative <;> decide
  simp [written, unsigned, inSign, inWhole, inFraction, inExponent]

end Numeral

end ParamSchema
