import Mathlib.Data.List.DropRight
import ParamSchema.Binary64.Layout
import ParamSchema.Proofs.Numeral

/-!
Contract: the text of a finite binary64 number is a numeral.

Owns:
- that the shortest decimal of a number above zero has a digit that is not zero;
- that digits are written as a numeral, positionally and with an exponent;
- the numeral that a JSON number shows.

Does not own: which number the numeral stands for.
-/

namespace ParamSchema.Binary64

/-! ## Shortest decimals -/

theorem lower_interval_pos {number : Binary64} (positive : 0 < number.magnitude) :
    0 < number.interval.lower := by
  have unit : 0 < Nat.pow 2 number.scale := Nat.pow_pos (by decide)
  have significant : 0 < number.significand := by
    rcases Nat.eq_zero_or_pos number.significand with zero | some
    · rw [magnitude, zero, Nat.zero_mul] at positive
      exact absurd positive (Nat.lt_irrefl 0)
    · exact some
  have large : Nat.pow 2 number.scale ≤ number.magnitude :=
    Nat.le_mul_of_pos_left _ significant
  simp only [interval]
  split <;> omega

/-- Zero lies outside the interval of a number above zero. -/
theorem contains_zero {number : Binary64} (positive : 0 < number.magnitude) {weight : Nat}
    (weightPositive : 0 < weight) : number.interval.contains 0 weight = false := by
  have above : 0 < number.interval.lower * weight :=
    Nat.mul_pos (lower_interval_pos positive) weightPositive
  unfold Interval.contains
  split
  · rw [decide_eq_false (Nat.not_le_of_lt above), Bool.false_and]
  · rw [decide_eq_false (Nat.not_lt_zero _), Bool.false_and]

theorem digits_ne_zero_of_nearestOnGrid {tie : Tie} {number : Binary64} {exponent : Int}
    {decimal : Decimal} (positive : 0 < number.magnitude)
    (found : nearestOnGrid? tie number exponent = some decimal) : decimal.digits ≠ 0 := by
  have weight : 0 < Nat.pow 10 (-exponent).toNat := Nat.pow_pos (by decide)
  have outside := contains_zero positive weight
  unfold nearestOnGrid? at found
  dsimp only at found
  split at found
  · next fits =>
      cases found
      intro isZero
      dsimp only at isZero
      rw [isZero, Nat.mul_zero, Nat.zero_mul, outside, Bool.false_and] at fits
      cases fits
  · split at found
    · cases found
      exact Nat.succ_ne_zero _
    · cases found

/-- The shortest decimal has a digit that is not zero, unless none was found on any grid. -/
theorem digits_shortest {number : Binary64} (positive : 0 < number.magnitude) (tie : Tie) :
    (shortest tie number).digits ≠ 0 ∨ shortest tie number = ⟨0, 0⟩ := by
  unfold shortest
  dsimp only
  cases found : List.findSome? (nearestOnGrid? tie number)
      ((List.range 17).map fun count => leadingExponent number.magnitude - (count : Nat)) with
  | none => exact .inr rfl
  | some decimal =>
      obtain ⟨exponent, -, onGrid⟩ := List.exists_of_findSome?_eq_some found
      exact .inl (digits_ne_zero_of_nearestOnGrid positive onGrid)

/-! ## Digits -/

theorem significantDigits_eq (decimal : Decimal) :
    decimal.significantDigits = (Nat.toDigits 10 decimal.digits).rdropWhile (· == '0') := rfl

/-- The digits that are written start with one that is not zero. -/
theorem significantDigits_spec {decimal : Decimal} (notZero : decimal.digits ≠ 0) :
    AreDigits decimal.significantDigits ∧ decimal.significantDigits.head? ≠ some '0' := by
  have leading := head?_toDigits (Nat.pos_of_ne_zero notZero)
  have areDigits := areDigits_toDigits decimal.digits
  rw [significantDigits_eq]
  obtain ⟨dropped, split⟩ := List.rdropWhile_prefix (· == '0') (Nat.toDigits 10 decimal.digits)
  have nonempty : (Nat.toDigits 10 decimal.digits).rdropWhile (· == '0') ≠ [] := by
    rw [Ne, List.rdropWhile_eq_nil_iff]
    intro allZero
    cases digits : Nat.toDigits 10 decimal.digits with
    | nil => exact areDigits.nonempty digits
    | cons first rest =>
        have firstZero := allZero first (by rw [digits]; exact List.mem_cons_self)
        rw [digits, List.head?_cons, beq_iff_eq.mp firstZero] at leading
        exact leading rfl
  refine ⟨⟨nonempty, fun digit held => areDigits.each digit ?_⟩, ?_⟩
  · rw [← split]
    exact List.mem_append_left _ held
  · rwa [← split, List.head?_append_of_ne_nil _ nonempty] at leading

/-! ## Layouts -/

/-- A text that shows a numeral without a sign. -/
def ShowsUnsigned (text : String) : Prop :=
  ∃ numeral : Numeral, numeral.Canonical ∧ text.toList = numeral.unsigned

theorem shows_of_point {text : String} (whole fraction : List Char) (isWhole : AreWhole whole)
    (isFraction : AreDigits fraction) (shown : text.toList = whole ++ '.' :: fraction) :
    ShowsUnsigned text := by
  refine ⟨⟨false, whole, some fraction, none⟩, ⟨isWhole, ?_, ?_⟩, ?_⟩
  · rintro _ ⟨⟩
    exact isFraction
  · rintro _ ⟨⟩
  · rw [shown]
    simp [Numeral.unsigned, Numeral.fractionText, Numeral.exponentText]

theorem isDigit_of_mem_zeros {count : Nat} : ∀ digit ∈ List.replicate count '0',
    digit.isDigit = true := by
  intro digit held
  rw [List.eq_of_mem_replicate held]
  rfl

variable {digits : List Char}

theorem positional_shows (areDigits : AreDigits digits) (leading : digits.head? ≠ some '0')
    (point : Int) : ShowsUnsigned (Layout.json.positional digits point) := by
  unfold Layout.positional
  split
  · refine shows_of_point ['0'] (List.replicate (-point).toNat '0' ++ digits)
      (areWhole_toDigits 0) ⟨?_, ?_⟩ (by simp [zeros])
    · exact List.append_ne_nil_of_right_ne_nil _ areDigits.nonempty
    · exact List.forall_mem_append.mpr ⟨isDigit_of_mem_zeros, areDigits.each⟩
  · next above =>
      split
      · refine shows_of_point (digits ++ List.replicate (point.toNat - digits.length) '0') ['0']
          ((areDigits.append isDigit_of_mem_zeros).whole ?_) (areDigits_toDigits 0)
          (by simp [zeros, Layout.json])
        rwa [List.head?_append_of_ne_nil _ areDigits.nonempty]
      · next fewer =>
          have first : digits.take point.toNat ≠ [] := by
            simp only [Ne, List.take_eq_nil_iff, areDigits.nonempty, or_false]
            omega
          have second : digits.drop point.toNat ≠ [] := by
            simp only [Ne, List.drop_eq_nil_iff]
            omega
          refine shows_of_point _ _ (AreDigits.whole ⟨first, fun digit held =>
            areDigits.each digit (List.mem_of_mem_take held)⟩ ?_)
            ⟨second, fun digit held => areDigits.each digit (List.mem_of_mem_drop held)⟩ (by simp)
          rw [← List.take_append_drop point.toNat digits,
            List.head?_append_of_ne_nil _ first] at leading
          exact leading

theorem scientific_shows (areDigits : AreDigits digits) (leading : digits.head? ≠ some '0')
    (exponent : Int) : ShowsUnsigned (scientific digits exponent) := by
  obtain ⟨first, rest, rfl⟩ := List.exists_cons_of_ne_nil areDigits.nonempty
  obtain ⟨firstDigit, restDigits⟩ := List.forall_mem_cons.mp areDigits.each
  refine ⟨⟨false, [first], if rest.isEmpty then none else some rest,
    some ⟨decide (exponent < 0), Nat.toDigits 10 exponent.natAbs⟩⟩, ⟨?_, ?_, ?_⟩, ?_⟩
  · exact AreDigits.whole ⟨List.cons_ne_nil _ _, by simpa using firstDigit⟩ leading
  · intro fraction present
    dsimp only at present
    split at present
    · cases present
    · next nonempty =>
        cases present
        exact ⟨by simpa using nonempty, restDigits⟩
  · rintro _ ⟨⟩
    exact areDigits_toDigits _
  · unfold scientific
    by_cases single : rest.isEmpty <;> by_cases negative : exponent < 0 <;>
      simp [single, negative, Numeral.unsigned, Numeral.fractionText, Numeral.exponentText,
        Nat.toList_repr]

theorem decimal_shows {decimal : Decimal} (notZero : decimal.digits ≠ 0) :
    ShowsUnsigned (Layout.json.decimal decimal) := by
  obtain ⟨areDigits, leading⟩ := significantDigits_spec notZero
  unfold Layout.decimal
  dsimp only
  split
  · exact positional_shows areDigits leading _
  · exact scientific_shows areDigits leading _

theorem ShowsUnsigned.signed {text : String} (shows : ShowsUnsigned text) (negative : Bool) :
    ∃ numeral : Numeral, numeral.Canonical ∧
      ((if negative then "-" else "") ++ text).toList = numeral.written := by
  obtain ⟨numeral, canonical, shown⟩ := shows
  refine ⟨{ numeral with negative := negative }, ⟨canonical.whole, canonical.fraction,
    canonical.exponent⟩, ?_⟩
  rw [String.toList_append, shown]
  cases negative <;> rfl

/-- The text of a JSON number shows a numeral. -/
theorem exists_numeral_of_json {number : Binary64} (finite : number.isFinite = true) :
    ∃ numeral : Numeral, numeral.Canonical ∧
      (Layout.json.text number).toList = numeral.written := by
  have zero : ShowsUnsigned "0.0" :=
    shows_of_point ['0'] ['0'] (areWhole_toDigits 0) (areDigits_toDigits 0) rfl
  unfold Layout.text
  dsimp only
  split
  · rw [String.append_assoc]
    exact zero.signed _
  · next notZero =>
      have positive : 0 < number.magnitude := by
        simpa [isZero, finite, Nat.pos_iff_ne_zero] using notZero
      rcases digits_shortest positive Layout.json.tie with someDigit | fallback
      · exact (decimal_shows someDigit).signed _
      · rw [fallback]
        exact zero.signed _

end ParamSchema.Binary64
