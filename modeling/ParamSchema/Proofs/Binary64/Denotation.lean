import Mathlib.Algebra.Field.Rat
import Mathlib.Algebra.Ring.Int.Parity
import Mathlib.Data.Rat.Defs
import Mathlib.Tactic.FieldSimp
import Mathlib.Tactic.Ring
import ParamSchema.Binary64.Basic

/-!
Contract: the rational numbers that binary64 words denote.

Owns:
- the number that the fields of a word denote;
- that it is the signed magnitude in units of `2 ^ -1074`;
- which integer a word denotes, if it denotes one.

Does not own: rounding (`Proofs.Binary64.Rounding`, `Proofs.Binary64.Exactness`).
-/

namespace ParamSchema.Binary64

/-- The number that a finite word denotes: a fraction of 52 bits, behind a leading one unless the
biased exponent is zero, times a power of two, under a sign. -/
def denoted (number : Binary64) : ℚ :=
  let sign : ℚ := if number.isNegative then -1 else 1
  if number.biasedExponent = 0 then sign * (number.fraction / 2 ^ 52) * 2 ^ (-1022 : ℤ)
  else sign * (1 + number.fraction / 2 ^ 52) * 2 ^ ((number.biasedExponent : ℤ) - 1023)

/-- The magnitude of a number under its sign. -/
def units (number : Binary64) : Int :=
  if number.isNegative then -(number.magnitude : Int) else number.magnitude

/-! ## Units -/

theorem one_pos : 0 < one := by
  unfold one
  -- The exponent is generalized so that no power of this size is ever evaluated.
  generalize 1074 = exponent
  exact Nat.pow_pos Nat.two_pos

theorem cast_pow_two (exponent : Nat) : ((Nat.pow 2 exponent : Nat) : ℚ) = 2 ^ (exponent : ℤ) := by
  rw [Nat.pow_eq, Nat.cast_pow, Nat.cast_ofNat, zpow_natCast]

theorem cast_one : (one : ℚ) = (2 ^ (-1074 : ℤ))⁻¹ := by
  have negated : (-1074 : ℤ) = -((1074 : Nat) : ℤ) := rfl
  unfold one
  rw [negated, zpow_neg, inv_inv]
  generalize 1074 = exponent
  exact cast_pow_two exponent

/-- The power of two above a subnormal fraction, in units. -/
theorem zpow_subnormal : (2 : ℚ) ^ (-1022 : ℤ) = 2 ^ 52 * 2 ^ (-1074 : ℤ) := by
  have sum : (-1022 : ℤ) = (52 : Nat) + -1074 := rfl
  rw [sum, zpow_add₀ two_ne_zero, zpow_natCast]

/-- The power of two above a normal fraction, in units. -/
theorem zpow_normal {exponent : Nat} (normal : exponent ≠ 0) :
    (2 : ℚ) ^ ((exponent : ℤ) - 1023) =
      2 ^ 52 * 2 ^ (-1074 : ℤ) * (Nat.pow 2 (exponent - 1) : Nat) := by
  have sum : (exponent : ℤ) - 1023 = (52 : Nat) + -1074 + (exponent - 1 : Nat) := by omega
  rw [sum, zpow_add₀ two_ne_zero, zpow_add₀ two_ne_zero, cast_pow_two, zpow_natCast]

/-- The fields of a word denote its signed magnitude. -/
theorem denoted_eq_units (number : Binary64) : number.denoted = number.units / one := by
  rw [cast_one, div_inv_eq_mul]
  unfold denoted units magnitude significand scale
  dsimp only
  by_cases subnormal : number.biasedExponent = 0
  · rw [if_pos subnormal, if_pos subnormal, subnormal, zpow_subnormal]
    generalize (2 : ℚ) ^ (-1074 : ℤ) = unit
    split <;>
    · push_cast
      field_simp
  · rw [if_neg subnormal, if_neg subnormal, zpow_normal subnormal]
    generalize (2 : ℚ) ^ (-1074 : ℤ) = unit
    generalize Nat.pow 2 (number.biasedExponent - 1) = scaled
    split <;>
    · push_cast
      field_simp
      ring

/-! ## Integers -/

theorem natAbs_units (number : Binary64) : number.units.natAbs = number.magnitude := by
  unfold units
  split <;> omega

theorem isNegative_of_units {number : Binary64} (nonzero : number.units ≠ 0) :
    number.isNegative = decide (number.units < 0) := by
  unfold units at nonzero ⊢
  cases sign : number.isNegative with
  | false =>
      have positive : ¬(number.magnitude : Int) < 0 := by omega
      exact (decide_eq_false positive).symm
  | true =>
      rw [if_pos sign] at nonzero
      have negative : -(number.magnitude : Int) < 0 := by omega
      exact (decide_eq_true negative).symm

/-- A word denotes an integer exactly when its signed magnitude is that many ones. -/
theorem denoted_eq_int_iff {number : Binary64} {value : Int} :
    number.denoted = value ↔ number.units = value * one := by
  have positive : (one : ℚ) ≠ 0 := Nat.cast_ne_zero.mpr one_pos.ne'
  rw [denoted_eq_units, div_eq_iff positive]
  exact_mod_cast Iff.rfl

/-- A magnitude of whole ones under its sign is as many ones. -/
theorem units_of_whole {number : Binary64} (whole : number.magnitude % one = 0) :
    number.units =
      (if number.isNegative then -((number.magnitude / one : Nat) : Int)
        else (number.magnitude / one : Nat)) * one := by
  have counted : ((number.magnitude / one : Nat) : Int) * one = number.magnitude := by
    exact_mod_cast Nat.div_mul_cancel (Nat.dvd_of_mod_eq_zero whole)
  unfold units
  split
  · rw [neg_mul, counted]
  · rw [counted]

theorem whole_of_units {number : Binary64} {value : Int} (same : number.units = value * one) :
    number.magnitude % one = 0 := by
  rw [← natAbs_units, same, Int.natAbs_mul, Int.natAbs_natCast, Nat.mul_mod_left]

/-- The integer that is read off a word is the one that it denotes. -/
theorem toInt?_eq_some_iff {number : Binary64} {value : Int} :
    number.toInt? = some value ↔ number.isFinite = true ∧ number.denoted = value := by
  rw [denoted_eq_int_iff]
  have nonzero : (one : Int) ≠ 0 := by exact_mod_cast one_pos.ne'
  unfold toInt?
  by_cases whole : number.magnitude % one = 0
  · have isWhole : (number.magnitude % one == 0) = true := beq_iff_eq.mpr whole
    rw [units_of_whole whole, mul_left_inj' nonzero, isWhole, Bool.and_true,
      Option.ite_none_right_eq_some, Option.some.injEq]
  · have notWhole : number.units ≠ value * one := fun same => whole (whole_of_units same)
    have isPart : (number.magnitude % one == 0) = false := beq_false_of_ne whole
    rw [isPart, Bool.and_false, if_neg Bool.false_ne_true]
    exact ⟨nofun, fun denotes => absurd denotes.2 notWhole⟩

end ParamSchema.Binary64
