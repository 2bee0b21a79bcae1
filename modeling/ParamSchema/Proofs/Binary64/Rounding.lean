import ParamSchema.Binary64.Rounding

/-!
Contract: when rounding stays within the finite numbers.

Owns:
- the bound on a rounded significand;
- that every integer of 64 bits is rounded to a finite number.

Does not own: how near a rounded number is.
-/

namespace ParamSchema.Binary64

theorem roundQuotient_le (numerator denominator : Nat) :
    roundQuotient numerator denominator ≤ numerator / denominator + 1 := by
  unfold roundQuotient
  dsimp only
  split
  · exact Nat.le_succ _
  · split
    · exact Nat.le_refl _
    · split
      · exact Nat.le_succ _
      · exact Nat.le_refl _

theorem le_roundQuotient (numerator denominator : Nat) :
    numerator / denominator ≤ roundQuotient numerator denominator := by
  unfold roundQuotient
  dsimp only
  split
  · exact Nat.le_refl _
  · split
    · exact Nat.le_succ _
    · split
      · exact Nat.le_refl _
      · exact Nat.le_succ _

/-- At the scale that is chosen for it, a quotient has at most 53 binary digits. -/
theorem div_scale_lt (value : Nat) :
    value / Nat.pow 2 (Nat.log2 value - 52) < 0x20000000000000 := by
  have below : value < Nat.pow 2 (Nat.log2 value + 1) := Nat.lt_log2_self
  have wide : Nat.pow 2 (Nat.log2 value + 1) ≤ Nat.pow 2 (53 + (Nat.log2 value - 52)) :=
    Nat.pow_le_pow_right (by decide) (by omega)
  have split : Nat.pow 2 (53 + (Nat.log2 value - 52)) =
      0x20000000000000 * Nat.pow 2 (Nat.log2 value - 52) := Nat.pow_add 2 53 _
  have positive : 0 < Nat.pow 2 (Nat.log2 value - 52) := Nat.two_pow_pos _
  rw [Nat.div_lt_iff_lt_mul positive, ← split]
  exact Nat.lt_of_lt_of_le below wide

theorem isFinite_ofWord {word : Nat} (small : word < infinityWord) (negative : Bool) :
    (ofWord (if negative then 0x8000000000000000 + word else word)).isFinite = true := by
  unfold infinityWord exponentLimit at small
  have exponent : ∀ stored < 0x10000000000000000,
      stored / 0x10000000000000 % 0x800 = word / 0x10000000000000 →
        (ofWord stored).isFinite = true := by
    intro stored fits same
    have wordEq : (ofWord stored).word = stored := by
      simp only [ofWord, Binary64.word, UInt64.toNat_ofNat']
      exact Nat.mod_eq_of_lt fits
    simp only [isFinite, biasedExponent, wordEq, same, exponentLimit, decide_eq_true_eq]
    omega
  cases negative with
  | false =>
      apply exponent
      · simp only [Bool.false_eq_true, if_false]
        omega
      · simp only [Bool.false_eq_true, if_false]
        omega
  | true =>
      apply exponent
      · simp only [if_true]
        omega
      · simp only [if_true]
        omega

/-- A quotient of at most 2045 binary digits is rounded to a finite number. -/
theorem isFinite_ofUnits {numerator denominator : Nat}
    (small : Nat.log2 (numerator / denominator) < 2045) (negative : Bool) :
    (ofUnits negative numerator denominator).isFinite = true := by
  unfold ofUnits
  dsimp only
  have scaleLt : Nat.log2 (numerator / denominator) - 52 < 1993 := by omega
  generalize scaleEq : Nat.log2 (numerator / denominator) - 52 = scale at scaleLt
  have floorLt : numerator / (denominator * Nat.pow 2 scale) < 0x20000000000000 := by
    rw [← Nat.div_div_eq_div_mul, ← scaleEq]
    exact div_scale_lt _
  have roundedLe := roundQuotient_le numerator (denominator * Nat.pow 2 scale)
  apply isFinite_ofWord
  unfold infinityWord exponentLimit
  omega

theorem log2_mul_pow_lt {value : Nat} (small : value ≤ 0x10000000000000000) (exponent : Nat) :
    Nat.log2 (value * Nat.pow 2 exponent) < 65 + exponent := by
  by_cases isZero : value * Nat.pow 2 exponent = 0
  · rw [isZero, Nat.log2_zero]
    omega
  · apply (Nat.log2_lt isZero).mpr
    calc value * Nat.pow 2 exponent
        ≤ Nat.pow 2 64 * Nat.pow 2 exponent := Nat.mul_le_mul_right _ small
      _ = Nat.pow 2 (64 + exponent) := (Nat.pow_add 2 64 exponent).symm
      _ < Nat.pow 2 (65 + exponent) := Nat.pow_lt_pow_right (by decide) (by omega)

/-- Integers of 64 bits and a sign are rounded to finite numbers. -/
theorem isFinite_ofInt {value : Int} (small : value.natAbs ≤ 0x10000000000000000) :
    (ofInt value).isFinite = true := by
  -- Said for any exponent, so that no power of this size is ever evaluated.
  have digits : ∀ exponent < 1980, Nat.log2 (value.natAbs * Nat.pow 2 exponent) < 2045 := by
    intro exponent below
    exact Nat.lt_trans (log2_mul_pow_lt small exponent) (by omega)
  unfold ofInt ofQuotient one
  apply isFinite_ofUnits
  rw [Nat.div_one]
  exact digits 1074 (by decide)

theorem isFinite_ofInt64 (value : Int64) : (ofInt value.toInt).isFinite = true := by
  have lower := value.le_toInt
  have upper := value.toInt_lt
  exact isFinite_ofInt (by omega)

end ParamSchema.Binary64
