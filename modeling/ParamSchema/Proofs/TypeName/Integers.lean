import ParamSchema.Proofs.Binary64.Casting
import ParamSchema.Proofs.Text.Integers
import ParamSchema.Proofs.TypeName.Coercion

/-!
Contract: which floats and texts are converted into integers, and the way back.

Owns:
- that a float is converted exactly when it denotes an integer of 64 bits, and into that integer;
- that a text is converted exactly when it spells an integer of 64 bits, and into that integer;
- that both conversions are those of guarded and checked arithmetic;
- the way from an integer to a float or text and back.

Does not own: integers that are converted into floats they do not equal.
-/

namespace ParamSchema.TypeName

/-! ## Integers that fit -/

theorem fitsInteger_iff {value : Int} :
    fitsInteger value = true ↔ -2 ^ 63 ≤ value ∧ value < 2 ^ 63 := by
  unfold fitsInteger
  rw [Bool.and_eq_true, decide_eq_true_eq, decide_eq_true_eq]
  norm_num

/-- What is held in 64 bits is what fits. -/
theorem exists_held_iff (property : Int → Prop) {value : Int} :
    (∃ held : Int64, held.toInt = value ∧ property held.toInt) ↔
      property value ∧ -2 ^ 63 ≤ value ∧ value < 2 ^ 63 := by
  constructor
  · rintro ⟨held, rfl, holds⟩
    exact ⟨holds, held.le_toInt, held.toInt_lt⟩
  · rintro ⟨holds, lower, upper⟩
    have same := Int64.toInt_ofInt_of_le lower upper
    exact ⟨Int64.ofInt value, same, same.symm ▸ holds⟩

/-- An integer that is read is converted when it fits. -/
theorem integerValue?_eq (read : Option Int) :
    integerValue? read = (read.bind Text.checked).map .integer := by
  cases read with
  | none => rfl
  | some value =>
      unfold integerValue? Text.checked
      rw [Option.bind_some, Option.filter_some]
      by_cases fits : -2 ^ 63 ≤ value ∧ value < 2 ^ 63
      · rw [if_pos (fitsInteger_iff.mpr fits), if_pos fits]
        rfl
      · rw [if_neg (mt fitsInteger_iff.mp fits), if_neg fits]
        rfl

theorem integerValue?_eq_some_iff {read : Option Int} {held : Int64} :
    integerValue? read = some (.integer held) ↔ read = some held.toInt := by
  rw [integerValue?_eq, Option.map_eq_some_iff]
  constructor
  · rintro ⟨found, fits, isHeld⟩
    obtain ⟨value, isRead, isChecked⟩ := Option.bind_eq_some_iff.mp fits
    cases isHeld
    rw [isRead, Text.checked_eq_some_iff.mp isChecked]
  · rintro rfl
    exact ⟨held, Text.checked_eq_some_iff.mpr rfl, rfl⟩

theorem coerce_integer_eq_ok_iff {value : Value} {read : Option Int} {held : Int64} :
    orInvalid .integer value (integerValue? read) = .ok (.integer held) ↔
      read = some held.toInt := by
  rw [← integerValue?_eq_some_iff]
  constructor
  · exact orInvalid_eq_ok
  · intro converted
    rw [converted]
    rfl

/-! ## Floats -/

theorem coerce_integer_float_iff {number : Binary64} {held : Int64} :
    coerce .integer (.float number) = .ok (.integer held) ↔
      number.isFinite = true ∧ number.denoted = held.toInt :=
  coerce_integer_eq_ok_iff.trans Binary64.toInt?_eq_some_iff

/-- A float is converted as the guarded cast says. -/
theorem coerce_integer_float_eq (number : Binary64) :
    coerce .integer (.float number) =
      orInvalid .integer (.float number) (number.castInteger?.map .integer) := by
  have same : number.toInt?.bind Text.checked = number.castInteger? := by
    ext held
    rw [Binary64.castInteger?_eq_some_iff, ← Binary64.toInt?_eq_some_iff, Option.bind_eq_some_iff]
    simp only [Text.checked_eq_some_iff, exists_eq_right]
  change orInvalid .integer (.float number) (integerValue? number.toInt?) = _
  rw [integerValue?_eq, same]

/-- Back from the integer that a float is converted into is an equal float. A zero comes back
without its sign. -/
theorem numericEq_ofInt {number : Binary64} {value : Int} (finite : number.isFinite = true)
    (denotes : number.denoted = value) : (Binary64.ofInt value).numericEq number = true := by
  have whole := Binary64.denoted_eq_int_iff.mp denotes
  have isNumber := Binary64.isNaN_of_isFinite finite
  unfold Binary64.numericEq
  by_cases nonzero : value = 0
  · have isZero : number.isZero = true := by
      rw [Binary64.isZero, finite, ← Binary64.natAbs_units, whole, nonzero, Int.zero_mul]
      rfl
    have roundedIsZero : (Binary64.ofInt 0).isZero = true := by decide +kernel
    have roundedIsNumber : (Binary64.ofInt 0).isNaN = false := by decide +kernel
    rw [nonzero, roundedIsNumber, isNumber, roundedIsZero, isZero]
    rfl
  · rw [Binary64.ofInt_of_units finite nonzero whole, isNumber, beq_self_eq_true, Bool.or_true]
    rfl

/-- A float is converted exactly when it is finite and denotes an integer of 64 bits, into that
integer; the cast that is guarded by comparisons with the bounds as floats decides just this and
never saturates. From the integer an equal float comes back, and integers of up to `2 ^ 53` come
back from their floats. -/
theorem integer_float_exact :
    (∀ (number : Binary64) (value : Int),
      (∃ held : Int64, held.toInt = value ∧
          coerce .integer (.float number) = .ok (.integer held)) ↔
        number.isFinite = true ∧ number.denoted = value ∧ -2 ^ 63 ≤ value ∧ value < 2 ^ 63) ∧
    (∀ number : Binary64,
      coerce .integer (.float number) =
        orInvalid .integer (.float number) (number.castInteger?.map .integer)) ∧
    (∀ (number : Binary64) (held : Int64),
      coerce .integer (.float number) = .ok (.integer held) →
        ∃ back, coerce .float (.integer held) = .ok (.float back) ∧
          back.numericEq number = true) ∧
    ∀ held : Int64, held.toInt.natAbs ≤ 2 ^ 53 →
      ∃ number, coerce .float (.integer held) = .ok (.float number) ∧
        coerce .integer (.float number) = .ok (.integer held) := by
  refine ⟨?exact, coerce_integer_float_eq, ?back, ?small⟩
  case exact =>
    intro number value
    simp only [coerce_integer_float_iff]
    exact (exists_held_iff fun value => number.isFinite = true ∧ number.denoted = value).trans
      and_assoc
  case back =>
    intro number held converted
    obtain ⟨finite, denotes⟩ := coerce_integer_float_iff.mp converted
    exact ⟨Binary64.ofInt held.toInt, rfl, numericEq_ofInt finite denotes⟩
  case small =>
    intro held small
    obtain ⟨finite, whole⟩ := Binary64.ofInt_exact small
    exact ⟨Binary64.ofInt held.toInt, rfl,
      coerce_integer_float_iff.mpr ⟨finite, Binary64.denoted_eq_int_iff.mpr whole⟩⟩

/-- The smallest integer is converted from its float and back, and `2 ^ 63` is the first float that
is refused. -/
theorem integer_float_exact_bounds :
    coerce .integer (.float ⟨0xc3e0000000000000⟩) = .ok (.integer Int64.minValue) ∧
      (∃ back, coerce .float (.integer Int64.minValue) = .ok (.float back) ∧
        back.numericEq ⟨0xc3e0000000000000⟩ = true) ∧
      ¬∃ held : Int64, held.toInt = 2 ^ 63 ∧
        coerce .integer (.float ⟨0x43e0000000000000⟩) = .ok (.integer held) := by
  obtain ⟨exact, -, back, -⟩ := integer_float_exact
  have denotes : Binary64.toInt? ⟨0xc3e0000000000000⟩ = some Int64.minValue.toInt := by
    decide +kernel
  have converted :
      coerce .integer (.float ⟨0xc3e0000000000000⟩) = .ok (.integer Int64.minValue) :=
    coerce_integer_float_iff.mpr (Binary64.toInt?_eq_some_iff.mp denotes)
  refine ⟨converted, back _ _ converted, fun held => ?_⟩
  obtain ⟨-, -, -, upper⟩ := (exact _ _).mp held
  exact absurd upper (by decide)

/-! ## Texts -/

theorem coerce_integer_text_iff {text : String} {held : Int64} :
    coerce .integer (.text text) = .ok (.integer held) ↔
      Text.SpellsInteger text.toList held.toInt :=
  coerce_integer_eq_ok_iff.trans Text.readInteger?_eq_some_iff

/-- A text is converted as it is read in checked arithmetic. -/
theorem coerce_integer_text_eq (text : String) :
    coerce .integer (.text text) =
      orInvalid .integer (.text text) ((Text.readChecked? text).map .integer) := by
  change orInvalid .integer (.text text) (integerValue? (Text.readInteger? text)) = _
  rw [integerValue?_eq, Text.readChecked?_eq]

/-- A text is converted exactly when it is one or more ASCII digits behind at most one sign, and
their value is an integer of 64 bits, into that integer; reading digit by digit in checked
arithmetic decides just this. Every integer comes back from its text. -/
theorem integer_text_exact :
    (∀ (text : String) (value : Int),
      (∃ held : Int64, held.toInt = value ∧
          coerce .integer (.text text) = .ok (.integer held)) ↔
        Text.SpellsInteger text.toList value ∧ -2 ^ 63 ≤ value ∧ value ≤ 2 ^ 63 - 1) ∧
    (∀ text : String,
      coerce .integer (.text text) =
        orInvalid .integer (.text text) ((Text.readChecked? text).map .integer)) ∧
    ∀ held : Int64,
      ∃ text, coerce .string (.integer held) = .ok (.text text) ∧
        coerce .integer (.text text) = .ok (.integer held) := by
  refine ⟨?grammar, coerce_integer_text_eq, ?back⟩
  case grammar =>
    intro text value
    simp only [coerce_integer_text_iff]
    rw [exists_held_iff (Text.SpellsInteger text.toList), Int.le_sub_one_iff]
  case back =>
    intro held
    exact ⟨Text.integer held.toInt, rfl,
      coerce_integer_text_iff.mpr (Text.spellsInteger_integer held.toInt)⟩

example : coerce .integer (.text "-9223372036854775808") = .ok (.integer Int64.minValue) := by
  rfl

end ParamSchema.TypeName
