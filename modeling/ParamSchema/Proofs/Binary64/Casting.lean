import ParamSchema.Proofs.Binary64.Exactness

/-!
Contract: casting numbers to integers of 64 bits under guards that compare numbers.

Owns:
- the order of numbers, the part of a number behind the point, and the cast that saturates;
- the cast that is guarded by a test of that part and by comparisons with the bounds as numbers;
- that the guarded cast gives exactly the integers that numbers denote, and never saturates.

Does not own: what a conversion does with an integer (`Proofs.TypeName.Integers`).

The larger bound is rounded up to `2 ^ 63`, so it is the first number that is refused, while the
smaller one is a number and is accepted.
-/

namespace ParamSchema.Binary64

/-! ## Operations on numbers -/

/-- The order of numbers, infinities beyond all others. What is not a number is never in order. -/
def atMost (left right : Binary64) : Bool :=
  !left.isNaN && !right.isNaN && decide (left.units ≤ right.units)

/-- The strict order of numbers. -/
def below (left right : Binary64) : Bool :=
  !left.isNaN && !right.isNaN && decide (left.units < right.units)

/-- The part of a finite number behind the point, under the sign of the number. No guard sees the
sign of a part that is zero. -/
def fractionalPart (number : Binary64) : Binary64 :=
  ofUnits number.isNegative (number.magnitude % one) 1

/-- The integer of 64 bits nearest to a number without the part behind the point; what is not a
number becomes zero. -/
def saturated (number : Binary64) : Int64 :=
  if number.isNaN then 0 else Int64.ofIntClamp (number.units.tdiv one)

/-- The cast of a finite number without a part behind the point that is at least the smallest
integer of 64 bits and below the largest, both taken as numbers. -/
def castInteger? (number : Binary64) : Option Int64 :=
  if number.isFinite && number.fractionalPart.numericEq ⟨0⟩ &&
      (ofInt Int64.minValue.toInt).atMost number && number.below (ofInt Int64.maxValue.toInt) then
    some number.saturated
  else none

/-! ## The part behind the point -/

section Zero

variable {number : Binary64} {word : Nat}

theorem isNaN_of_isFinite (finite : number.isFinite = true) : number.isNaN = false := by
  rw [isNaN, finite]
  rfl

theorem numericEq_zero : number.numericEq ⟨0⟩ = number.isZero := by
  have zeroIsZero : isZero ⟨0⟩ = true := by decide
  have zeroIsNumber : isNaN ⟨0⟩ = false := by decide
  unfold numericEq
  rw [zeroIsZero, zeroIsNumber, Bool.and_true]
  by_cases isZero : number.isZero
  · have finite : number.isFinite = true := (Bool.and_eq_true_iff.mp isZero).1
    simp [isZero, isNaN_of_isFinite finite]
  · have different : number ≠ ⟨0⟩ := by
      rintro rfl
      exact isZero zeroIsZero
    simp [isZero, different]

theorem isZero_underSign (negative : Bool) (small : word < 0x8000000000000000) :
    (underSign negative word).isZero = true ↔ word = 0 := by
  have power : Nat.pow 2 (underSign negative word).scale ≠ 0 := (Nat.two_pow_pos _).ne'
  unfold isZero isFinite magnitude significand
  rw [biasedExponent_underSign negative small, fraction_underSign negative small,
    Bool.and_eq_true, beq_iff_eq, Nat.mul_eq_zero, or_iff_left power, decide_eq_true_eq]
  unfold exponentLimit
  split <;> omega

/-- Only nothing is rounded to zero. -/
theorem isZero_ofUnits (negative : Bool) (numerator : Nat) :
    (ofUnits negative numerator 1).isZero = true ↔ numerator = 0 := by
  unfold ofUnits
  dsimp only
  rw [Nat.div_one, Nat.one_mul]
  generalize scaleEq : Nat.log2 numerator - 52 = scale
  change (underSign negative (min _ infinityWord)).isZero = true ↔ _
  have small : infinityWord < 0x8000000000000000 := by decide
  rw [isZero_underSign negative (Nat.lt_of_le_of_lt (Nat.min_le_right _ _) small)]
  constructor
  · intro isZero
    by_contra some
    have lower : Nat.pow 2 scale ≤ numerator :=
      Nat.le_trans (Nat.pow_le_pow_right (by decide) (by omega)) (Nat.log2_self_le some)
    have counted : 1 ≤ numerator / Nat.pow 2 scale :=
      Nat.div_pos lower (Nat.two_pow_pos scale)
    have rounded := le_roundQuotient numerator (Nat.pow 2 scale)
    unfold infinityWord exponentLimit at isZero
    omega
  · rintro rfl
    have noScale : scale = 0 := scaleEq.symm.trans (by decide)
    rw [noScale]
    decide

/-- A finite number has nothing behind the point exactly when its magnitude is a whole number of
ones. -/
theorem fractionalPart_eq_zero_iff :
    number.fractionalPart.numericEq ⟨0⟩ = true ↔ number.magnitude % one = 0 := by
  rw [numericEq_zero, fractionalPart, isZero_ofUnits]

end Zero

/-! ## Bounds -/

section Bounds

variable {number : Binary64} {value : Int}

theorem atMost_minValue_iff (finite : number.isFinite = true) :
    (ofInt Int64.minValue.toInt).atMost number = true ↔
      -0x8000000000000000 * (one : Int) ≤ number.units := by
  have isNumber : (ofInt Int64.minValue.toInt).isNaN = false := by decide +kernel
  have unitsEq : (ofInt Int64.minValue.toInt).units = -0x8000000000000000 * (one : Int) := by
    decide +kernel
  rw [atMost, isNumber, isNaN_of_isFinite finite, unitsEq]
  exact decide_eq_true_iff

/-- The largest integer of 64 bits is rounded to one more. -/
theorem below_maxValue_iff (finite : number.isFinite = true) :
    number.below (ofInt Int64.maxValue.toInt) = true ↔
      number.units < 0x8000000000000000 * (one : Int) := by
  have isNumber : (ofInt Int64.maxValue.toInt).isNaN = false := by decide +kernel
  have unitsEq : (ofInt Int64.maxValue.toInt).units = 0x8000000000000000 * (one : Int) := by
    decide +kernel
  rw [below, isNumber, isNaN_of_isFinite finite, unitsEq]
  exact decide_eq_true_iff

/-- Compared in units or as integers, the bounds are the same. -/
theorem inBounds_iff (whole : number.units = value * one) :
    -0x8000000000000000 * (one : Int) ≤ number.units ∧
        number.units < 0x8000000000000000 * (one : Int) ↔
      -2 ^ 63 ≤ value ∧ value < 2 ^ 63 := by
  have positive : (0 : Int) < one := by exact_mod_cast one_pos
  rw [whole, mul_le_mul_iff_left₀ positive, mul_lt_mul_iff_left₀ positive]
  norm_num

theorem saturated_of_units (finite : number.isFinite = true) (whole : number.units = value * one)
    (lower : -2 ^ 63 ≤ value) (upper : value < 2 ^ 63) : number.saturated.toInt = value := by
  have nonzero : (one : Int) ≠ 0 := by exact_mod_cast one_pos.ne'
  rw [saturated, isNaN_of_isFinite finite, if_neg Bool.false_ne_true, whole,
    Int.mul_tdiv_cancel value nonzero]
  exact Int64.toInt_ofIntClamp lower (Int.le_of_lt_add_one upper)

/-- The guarded cast succeeds exactly on the numbers that denote an integer of 64 bits, and gives
that integer. -/
theorem castInteger?_eq_some_iff {held : Int64} :
    number.castInteger? = some held ↔
      number.isFinite = true ∧ number.denoted = held.toInt := by
  rw [denoted_eq_int_iff]
  unfold castInteger?
  constructor
  · intro cast
    obtain ⟨guards, isHeld⟩ := Option.ite_none_right_eq_some.mp cast
    simp only [Bool.and_eq_true] at guards
    obtain ⟨⟨⟨finite, whole⟩, lower⟩, upper⟩ := guards
    rw [atMost_minValue_iff finite] at lower
    rw [below_maxValue_iff finite] at upper
    have isValue := units_of_whole (fractionalPart_eq_zero_iff.mp whole)
    obtain ⟨valueLower, valueUpper⟩ := (inBounds_iff isValue).mp ⟨lower, upper⟩
    cases isHeld
    rw [saturated_of_units finite isValue valueLower valueUpper]
    exact ⟨finite, isValue⟩
  · rintro ⟨finite, isHeld⟩
    obtain ⟨lower, upper⟩ := (inBounds_iff isHeld).mpr ⟨held.le_toInt, held.toInt_lt⟩
    have whole := fractionalPart_eq_zero_iff.mpr (whole_of_units isHeld)
    have cast : number.saturated = held :=
      Int64.toInt_inj.mp (saturated_of_units finite isHeld held.le_toInt held.toInt_lt)
    rw [finite, whole, (atMost_minValue_iff finite).mpr lower,
      (below_maxValue_iff finite).mpr upper, cast]
    rfl

end Bounds

end ParamSchema.Binary64
