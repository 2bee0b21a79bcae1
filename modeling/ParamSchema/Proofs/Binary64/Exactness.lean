import ParamSchema.Proofs.Binary64.Denotation
import ParamSchema.Proofs.Binary64.Rounding

/-!
Contract: what is rounded without loss.

Owns:
- the significands and scales that finite words store, and the word of each;
- that rounding gives back every magnitude that a word can store;
- that integers of up to `2 ^ 53` are rounded to what they are.

Does not own: how near a rounded number is to what no word stores.
-/

namespace ParamSchema.Binary64

/-! ## Stored significands -/

/-- A significand and a scale as finite words store them: at most 53 binary digits, and exactly 53
unless the scale is zero. -/
structure Stored (significand scale : Nat) : Prop where
  below : significand < 0x20000000000000
  full : scale = 0 ∨ 0x10000000000000 ≤ significand
  inRange : scale ≤ 2045

/-- The word without a sign that stores a significand and a scale. A leading bit of the significand
carries into the exponent. -/
def storing (significand scale : Nat) : Nat :=
  scale * 0x10000000000000 + significand

/-- The number of a word under a sign. -/
def underSign (negative : Bool) (word : Nat) : Binary64 :=
  ofWord (if negative then 0x8000000000000000 + word else word)

section Fields

variable {significand scale word : Nat}

theorem word_underSign (negative : Bool) (small : word < 0x8000000000000000) :
    (underSign negative word).word = if negative then 0x8000000000000000 + word else word := by
  unfold underSign ofWord Binary64.word
  rw [UInt64.toNat_ofNat']
  split <;> omega

theorem isNegative_underSign (negative : Bool) (small : word < 0x8000000000000000) :
    (underSign negative word).isNegative = negative := by
  unfold isNegative
  rw [word_underSign negative small]
  cases negative <;> simp [small]

theorem biasedExponent_underSign (negative : Bool) (small : word < 0x8000000000000000) :
    (underSign negative word).biasedExponent = word / 0x10000000000000 := by
  unfold biasedExponent
  rw [word_underSign negative small]
  split <;> omega

theorem fraction_underSign (negative : Bool) (small : word < 0x8000000000000000) :
    (underSign negative word).fraction = word % 0x10000000000000 := by
  unfold fraction
  rw [word_underSign negative small]
  split <;> omega

theorem Stored.storing_lt (stored : Stored significand scale) :
    storing significand scale < 0x7ff0000000000000 := by
  have below := stored.below
  have inRange := stored.inRange
  unfold storing
  omega

/-- A word that stores a significand and a scale is read back as them. -/
theorem Stored.fields (stored : Stored significand scale) (negative : Bool) :
    (underSign negative (storing significand scale)).significand = significand ∧
      (underSign negative (storing significand scale)).scale = scale := by
  have small : storing significand scale < 0x8000000000000000 :=
    Nat.lt_trans stored.storing_lt (by decide)
  have below := stored.below
  have full := stored.full
  unfold Binary64.significand Binary64.scale
  rw [biasedExponent_underSign negative small, fraction_underSign negative small]
  unfold storing
  split <;> omega

theorem Stored.magnitude_eq (stored : Stored significand scale) (negative : Bool) :
    (underSign negative (storing significand scale)).magnitude = significand * Nat.pow 2 scale := by
  obtain ⟨sameSignificand, sameScale⟩ := stored.fields negative
  rw [magnitude, sameSignificand, sameScale]

theorem Stored.isFinite (stored : Stored significand scale) (negative : Bool) :
    (underSign negative (storing significand scale)).isFinite = true := by
  have below := stored.storing_lt
  unfold Binary64.isFinite exponentLimit
  rw [biasedExponent_underSign negative (by omega), decide_eq_true_eq]
  omega

theorem Stored.units_eq (stored : Stored significand scale) (negative : Bool) :
    (underSign negative (storing significand scale)).units =
      if negative then -((significand * Nat.pow 2 scale : Nat) : Int)
      else (significand * Nat.pow 2 scale : Nat) := by
  have below := stored.storing_lt
  rw [units, isNegative_underSign negative (by omega), stored.magnitude_eq negative]

/-- Every finite number stores its significand and scale. -/
theorem stored_of_isFinite {number : Binary64} (finite : number.isFinite = true) :
    Stored number.significand number.scale := by
  have exponent : number.biasedExponent < 2047 := of_decide_eq_true finite
  have fraction : number.fraction < 0x10000000000000 := Nat.mod_lt _ (by decide)
  unfold significand scale
  constructor
  case below => split <;> omega
  case full => split <;> omega
  case inRange => omega

/-- A number is its sign in front of what it stores. -/
theorem eq_underSign (number : Binary64) :
    underSign number.isNegative (storing number.significand number.scale) = number := by
  have small : number.word < 0x10000000000000000 := number.bits.toNat_lt
  have unsigned : storing number.significand number.scale = number.word % 0x8000000000000000 := by
    unfold storing Binary64.significand Binary64.scale biasedExponent fraction
    split <;> omega
  have whole : (if number.isNegative then 0x8000000000000000 + number.word % 0x8000000000000000
      else number.word % 0x8000000000000000) = number.word := by
    unfold isNegative
    simp only [decide_eq_true_eq]
    split <;> omega
  unfold underSign ofWord
  rw [unsigned, whole, Binary64.word, UInt64.ofNat_toNat]

end Fields

/-! ## Rounding what can be stored -/

section Rounding

variable {significand scale : Nat}

theorem roundQuotient_mul (value : Nat) {step : Nat} (positive : 0 < step) :
    roundQuotient (value * step) step = value := by
  unfold roundQuotient
  dsimp only
  rw [Nat.mul_mod_left, Nat.mul_zero, if_pos positive, Nat.mul_div_cancel value positive]

/-- The scale that rounding chooses for what can be stored is the one it is stored with. -/
theorem Stored.log2_eq (stored : Stored significand scale) :
    Nat.log2 (significand * Nat.pow 2 scale) - 52 = scale := by
  rcases stored.full with rfl | leading
  · have below : significand * Nat.pow 2 0 < Nat.pow 2 53 := by simpa using stored.below
    by_cases isZero : significand * Nat.pow 2 0 = 0
    · rw [isZero, Nat.log2_zero]
    · have := (Nat.log2_lt isZero).mpr below
      omega
  · have positive : 0 < Nat.pow 2 scale := Nat.two_pow_pos scale
    have nonzero : significand * Nat.pow 2 scale ≠ 0 := Nat.mul_ne_zero (by omega) positive.ne'
    have lower : 2 ^ (52 + scale) ≤ significand * Nat.pow 2 scale := by
      rw [Nat.pow_add]
      exact Nat.mul_le_mul_right _ leading
    have upper : significand * Nat.pow 2 scale < 2 ^ (52 + scale + 1) := by
      rw [Nat.add_right_comm, Nat.pow_add]
      exact Nat.mul_lt_mul_of_pos_right stored.below positive
    rw [(Nat.log2_eq_iff nonzero).mpr ⟨lower, upper⟩, Nat.add_sub_cancel_left]

/-- Rounding gives back what can be stored. -/
theorem Stored.ofUnits_eq (stored : Stored significand scale) (negative : Bool) :
    ofUnits negative (significand * Nat.pow 2 scale) 1 =
      underSign negative (storing significand scale) := by
  have positive : 0 < Nat.pow 2 scale := Nat.two_pow_pos scale
  have finite : storing significand scale ≤ infinityWord := by
    have below := stored.storing_lt
    unfold infinityWord exponentLimit
    omega
  unfold ofUnits
  dsimp only
  rw [Nat.div_one, stored.log2_eq, Nat.one_mul, roundQuotient_mul significand positive]
  change ofWord (if negative then 0x8000000000000000 + min (storing significand scale) infinityWord
    else min (storing significand scale) infinityWord) = _
  rw [Nat.min_eq_left finite]
  rfl

/-- The number nearest to the magnitude of a finite number, under its sign, is that number. -/
theorem ofUnits_magnitude {number : Binary64} (finite : number.isFinite = true) :
    ofUnits number.isNegative number.magnitude 1 = number := by
  rw [magnitude, (stored_of_isFinite finite).ofUnits_eq, eq_underSign]

end Rounding

/-! ## Integers -/

/-- A value of at most 53 binary digits is stored with as many zeros behind it as make 53 digits. -/
theorem exists_stored {value exponent : Nat} (small : value < 0x20000000000000)
    (above : 52 ≤ exponent) (inRange : exponent ≤ 2045) :
    ∃ significand scale, Stored significand scale ∧
      value * Nat.pow 2 exponent = significand * Nat.pow 2 scale := by
  by_cases isZero : value = 0
  · exact ⟨0, 0, ⟨by decide, .inl rfl, by decide⟩, by rw [isZero, Nat.zero_mul, Nat.zero_mul]⟩
  · have digits : Nat.log2 value < 53 := (Nat.log2_lt isZero).mpr small
    obtain ⟨lower, upper⟩ := (Nat.log2_eq_iff isZero).mp rfl
    generalize Nat.log2 value = leading at digits lower upper
    obtain ⟨shift, shifted⟩ := Nat.exists_eq_add_of_le (Nat.le_of_lt_succ digits)
    obtain ⟨rest, isRest⟩ := Nat.exists_eq_add_of_le (show shift ≤ exponent by omega)
    have positive : 0 < 2 ^ shift := Nat.two_pow_pos shift
    have below : value * 2 ^ shift < 2 ^ (leading + 1) * 2 ^ shift :=
      Nat.mul_lt_mul_of_pos_right upper positive
    have full : 2 ^ leading * 2 ^ shift ≤ value * 2 ^ shift := Nat.mul_le_mul_right _ lower
    rw [← Nat.pow_add, Nat.add_right_comm, ← shifted] at below
    rw [← Nat.pow_add, ← shifted] at full
    refine ⟨value * 2 ^ shift, rest, ⟨below, .inr full, by omega⟩, ?_⟩
    rw [isRest, Nat.mul_assoc]
    exact congrArg (value * ·) (Nat.pow_add 2 shift rest)

/-- Integers of up to `2 ^ 53` are stored, as many ones. -/
theorem exists_stored_ones {value : Nat} (small : value ≤ 0x20000000000000) :
    ∃ significand scale, Stored significand scale ∧
      value * one = significand * Nat.pow 2 scale := by
  -- Said for any exponent, so that no power of this size is ever evaluated.
  have stored : ∀ exponent, 52 ≤ exponent → exponent ≤ 1992 → ∃ significand scale,
      Stored significand scale ∧ value * Nat.pow 2 exponent = significand * Nat.pow 2 scale := by
    intro exponent above inRange
    rcases Nat.lt_or_eq_of_le small with below | rfl
    · exact exists_stored below above (by omega)
    · have shifted : 0x20000000000000 * Nat.pow 2 exponent = 1 * Nat.pow 2 (53 + exponent) := by
        rw [Nat.one_mul]
        exact (Nat.pow_add 2 53 exponent).symm
      rw [shifted]
      exact exists_stored (by decide) (by omega) (by omega)
  unfold one
  exact stored 1074 (by decide) (by decide)

/-- An integer of up to `2 ^ 53` is rounded to a finite number that denotes it. -/
theorem ofInt_exact {value : Int} (small : value.natAbs ≤ 0x20000000000000) :
    (ofInt value).isFinite = true ∧ (ofInt value).units = value * one := by
  obtain ⟨significand, scale, stored, same⟩ := exists_stored_ones small
  have rounded : ofInt value = underSign (decide (value < 0)) (storing significand scale) := by
    unfold ofInt ofQuotient
    rw [same, stored.ofUnits_eq]
  rw [rounded]
  refine ⟨stored.isFinite _, ?_⟩
  rw [stored.units_eq, ← same, Nat.cast_mul]
  by_cases negative : value < 0
  · rw [if_pos (decide_eq_true negative), Int.ofNat_natAbs_of_nonpos (by omega), neg_mul, neg_neg]
  · rw [if_neg (by simpa using negative), Int.natAbs_of_nonneg (by omega)]

/-- A finite number other than zero that denotes an integer is what that integer is rounded to. -/
theorem ofInt_of_units {number : Binary64} {value : Int} (finite : number.isFinite = true)
    (nonzero : value ≠ 0) (whole : number.units = value * one) : ofInt value = number := by
  have magnitudes : value.natAbs * one = number.magnitude := by
    rw [← natAbs_units, whole, Int.natAbs_mul, Int.natAbs_natCast]
  have positive : (0 : Int) < one := by exact_mod_cast one_pos
  have signs : decide (value < 0) = number.isNegative := by
    have unitsNonzero : number.units ≠ 0 := whole ▸ Int.mul_ne_zero nonzero positive.ne'
    rw [isNegative_of_units unitsNonzero, whole]
    exact decide_eq_decide.mpr ⟨fun negative => mul_neg_of_neg_of_pos negative positive,
      fun negative => neg_of_mul_neg_left negative positive.le⟩
  unfold ofInt ofQuotient
  rw [magnitudes, signs, ofUnits_magnitude finite]

end ParamSchema.Binary64
