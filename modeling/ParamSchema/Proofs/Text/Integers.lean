import Mathlib.Tactic.Ring
import ParamSchema.Proofs.Numeral
import ParamSchema.Text.Integer

/-!
Contract: the texts that spell integers.

Owns:
- the value that digits have by their places, and which texts spell which integers;
- that reading an integer finds exactly these, and that the text of an integer spells it;
- reading digit by digit in checked arithmetic of 64 bits, which finds the same integers as reading
  without bounds and checking the value at the end.

Does not own: what a conversion does with an integer (`Proofs.TypeName.Integers`).
-/

namespace ParamSchema.Text

/-! ## Spelling -/

def digitValue (digit : Char) : Nat :=
  digit.toNat - '0'.toNat

/-- The value of digits, each of which counts the power of ten of its place. -/
def placeValue : List Char → Nat
  | [] => 0
  | digit :: rest => digitValue digit * 10 ^ rest.length + placeValue rest

/-- Characters spell an integer when they are one or more digits behind at most one sign, and
nothing else. -/
inductive SpellsInteger : List Char → Int → Prop where
  | unsigned {digits : List Char} (areDigits : AreDigits digits) :
      SpellsInteger digits (placeValue digits)
  | plus {digits : List Char} (areDigits : AreDigits digits) :
      SpellsInteger ('+' :: digits) (placeValue digits)
  | minus {digits : List Char} (areDigits : AreDigits digits) :
      SpellsInteger ('-' :: digits) (-(placeValue digits : Int))

theorem digitsValue_eq_placeValue (digits : List Char) :
    digitsValue digits = placeValue digits := by
  unfold digitsValue
  induction digits with
  | nil => rfl
  | cons digit rest inductionHypothesis =>
      rw [Nat.ofDigitChars_cons, Nat.ofDigitChars_eq_ofDigitChars_zero, inductionHypothesis,
        Nat.mul_zero, Nat.zero_add, Nat.mul_comm]
      rfl

theorem areDigits_iff {digits : List Char} :
    AreDigits digits ↔ digits.isEmpty = false ∧ digits.all Char.isDigit = true := by
  rw [List.isEmpty_eq_false_iff, List.all_eq_true]
  exact ⟨fun are => ⟨are.nonempty, are.each⟩, fun ⟨nonempty, each⟩ => ⟨nonempty, each⟩⟩

theorem splitSign_of_areDigits {digits : List Char} (areDigits : AreDigits digits) :
    splitSign digits = (false, digits) := by
  have notSign (sign : Char) (rest : List Char) (isSign : sign.isDigit = false) :
      digits ≠ sign :: rest := by
    rintro rfl
    exact Bool.noConfusion (isSign.symm.trans (areDigits.each sign List.mem_cons_self))
  unfold splitSign
  split
  · exact absurd rfl (notSign '-' _ (by decide))
  · exact absurd rfl (notSign '+' _ (by decide))
  · rfl

/-- Characters spell an integer when they are digits behind the sign that is split off. -/
theorem spellsInteger_iff {characters : List Char} {value : Int} :
    SpellsInteger characters value ↔ AreDigits (splitSign characters).2 ∧
      signed (splitSign characters).1 (placeValue (splitSign characters).2) = value := by
  constructor
  · rintro (areDigits | areDigits | areDigits)
    · rw [splitSign_of_areDigits areDigits]
      exact ⟨areDigits, rfl⟩
    · exact ⟨areDigits, rfl⟩
    · exact ⟨areDigits, rfl⟩
  · rintro ⟨areDigits, rfl⟩
    unfold splitSign at areDigits ⊢
    split at areDigits
    · exact .minus areDigits
    · exact .plus areDigits
    · exact .unsigned areDigits

/-- Reading finds exactly the integers that are spelled. -/
theorem readInteger?_eq_some_iff {text : String} {value : Int} :
    readInteger? text = some value ↔ SpellsInteger text.toList value := by
  rw [spellsInteger_iff, areDigits_iff, ← digitsValue_eq_placeValue]
  unfold readInteger?
  dsimp only
  split
  · next isEmpty => simp [isEmpty]
  · next nonempty =>
      split
      · next allDigits => simp [nonempty, allDigits]
      · next notAll => simp [notAll]

/-- The text of an integer spells it. -/
theorem spellsInteger_integer (value : Int) : SpellsInteger (integer value).toList value := by
  have magnitude : placeValue (Nat.toDigits 10 value.natAbs) = value.natAbs := by
    rw [← digitsValue_eq_placeValue]
    exact Nat.ofDigitChars_ten_toDigits
  have areDigits := areDigits_toDigits value.natAbs
  unfold integer
  by_cases negative : value < 0
  · have spells := SpellsInteger.minus areDigits
    rw [magnitude, Int.ofNat_natAbs_of_nonpos (by omega), neg_neg] at spells
    rwa [if_pos negative, String.toList_append, Nat.toList_repr]
  · have spells := SpellsInteger.unsigned areDigits
    rw [magnitude, Int.natAbs_of_nonneg (by omega)] at spells
    rwa [if_neg negative, Nat.toList_repr]

/-! ## Checked arithmetic -/

/-- An integer as a value of 64 bits, if it fits. -/
def checked (value : Int) : Option Int64 :=
  if -2 ^ 63 ≤ value ∧ value < 2 ^ 63 then some (Int64.ofInt value) else none

/-- One more digit behind a value: the value is scaled, then the digit goes away from zero on the
side of the sign. Either step fails when its result does not fit. -/
def extend? (negative : Bool) (held : Int64) (digit : Char) : Option Int64 :=
  if digit.isDigit then
    (checked (held.toInt * 10)).bind fun scaled =>
      checked (scaled.toInt + signed negative (digitValue digit))
  else none

/-- The integer that a text spells, read digit by digit within 64 bits. -/
def readChecked? (text : String) : Option Int64 :=
  let (negative, digits) := splitSign text.toList
  if digits.isEmpty then none else digits.foldlM (extend? negative) 0

/-- The largest magnitude under a sign that fits. -/
def magnitudeLimit (negative : Bool) : Nat :=
  if negative then 2 ^ 63 else 2 ^ 63 - 1

theorem checked_eq_some_iff {value : Int} {held : Int64} :
    checked value = some held ↔ value = held.toInt := by
  unfold checked
  rw [Option.ite_none_right_eq_some, Option.some.injEq]
  constructor
  · rintro ⟨⟨lower, upper⟩, rfl⟩
    exact (Int64.toInt_ofInt_of_le lower upper).symm
  · rintro rfl
    exact ⟨⟨held.le_toInt, held.toInt_lt⟩, Int64.ofInt_toInt held⟩

theorem checked_eq_none_iff {value : Int} :
    checked value = none ↔ ¬(-2 ^ 63 ≤ value ∧ value < 2 ^ 63) := by
  unfold checked
  split
  · next fits => exact ⟨nofun, fun overflown => absurd fits overflown⟩
  · next overflown => exact ⟨fun _ => overflown, fun _ => rfl⟩

theorem checked_signed_eq_none_iff {negative : Bool} {magnitude : Nat} :
    checked (signed negative magnitude) = none ↔ magnitudeLimit negative < magnitude := by
  rw [checked_eq_none_iff]
  unfold signed magnitudeLimit
  cases negative with
  | false =>
      rw [if_neg Bool.false_ne_true, if_neg Bool.false_ne_true]
      omega
  | true =>
      rw [if_pos rfl, if_pos rfl]
      omega

theorem signed_mul (negative : Bool) (magnitude factor : Nat) :
    signed negative magnitude * factor = signed negative (magnitude * factor) := by
  cases negative <;> simp [signed]

theorem signed_add (negative : Bool) (magnitude more : Nat) :
    signed negative magnitude + signed negative more = signed negative (magnitude + more) := by
  cases negative <;> simp [signed, Int.add_comm]

section Digits

variable {negative : Bool} {held : Int64} {magnitude : Nat} {digit : Char} {digits : List Char}

/-- A digit extends the magnitude of a value while the result fits. -/
theorem extend?_eq (isHeld : held.toInt = signed negative magnitude)
    (isDigit : digit.isDigit = true) :
    extend? negative held digit =
      checked (signed negative (magnitude * 10 + digitValue digit)) := by
  have scaledEq : held.toInt * 10 = signed negative (magnitude * 10) := by
    rw [isHeld]
    exact signed_mul negative magnitude 10
  unfold extend?
  rw [if_pos isDigit, scaledEq]
  cases scaling : checked (signed negative (magnitude * 10)) with
  | none =>
      have overflown := checked_signed_eq_none_iff.mp scaling
      exact (checked_signed_eq_none_iff.mpr (by omega)).symm
  | some scaled => rw [Option.bind_some, ← checked_eq_some_iff.mp scaling, signed_add]

/-- The magnitude of digits behind a magnitude, as the digits come one by one. -/
theorem magnitude_cons (magnitude : Nat) (digit : Char) (rest : List Char) :
    magnitude * 10 ^ (digit :: rest).length + placeValue (digit :: rest) =
      (magnitude * 10 + digitValue digit) * 10 ^ rest.length + placeValue rest := by
  rw [List.length_cons, placeValue, Nat.pow_succ]
  ring

/-- Digits extend the magnitude of a value while the result fits: what has overflown never fits
again. -/
theorem foldlM_extend? (isHeld : held.toInt = signed negative magnitude)
    (areDigits : ∀ digit ∈ digits, digit.isDigit = true) :
    digits.foldlM (extend? negative) held =
      checked (signed negative (magnitude * 10 ^ digits.length + placeValue digits)) := by
  induction digits generalizing held magnitude with
  | nil =>
      rw [List.length_nil, Nat.pow_zero, Nat.mul_one, placeValue, Nat.add_zero]
      exact (checked_eq_some_iff.mpr isHeld.symm).symm
  | cons digit rest inductionHypothesis =>
      obtain ⟨isDigit, restDigits⟩ := List.forall_mem_cons.mp areDigits
      rw [List.foldlM_cons, extend?_eq isHeld isDigit, magnitude_cons]
      generalize magnitude * 10 + digitValue digit = next
      cases extended : checked (signed negative next) with
      | none =>
          have overflown := checked_signed_eq_none_iff.mp extended
          have grown : next ≤ next * 10 ^ rest.length :=
            Nat.le_mul_of_pos_right next (Nat.pow_pos (by decide))
          exact (checked_signed_eq_none_iff.mpr (by omega)).symm
      | some longer =>
          exact inductionHypothesis (checked_eq_some_iff.mp extended).symm restDigits

theorem foldlM_extend?_eq_none (notDigits : digits.all Char.isDigit = false) :
    digits.foldlM (extend? negative) held = none := by
  induction digits generalizing held with
  | nil => cases notDigits
  | cons digit rest inductionHypothesis =>
      rw [List.all_cons, Bool.and_eq_false_iff] at notDigits
      rw [List.foldlM_cons]
      cases extended : extend? negative held digit with
      | none => rfl
      | some longer =>
          have isDigit : digit.isDigit = true := (Option.ite_none_right_eq_some.mp extended).1
          rw [isDigit] at notDigits
          exact inductionHypothesis (notDigits.resolve_left Bool.noConfusion)

end Digits

/-- Reading in checked arithmetic is reading without bounds and checking the value at the end. -/
theorem readChecked?_eq (text : String) : readChecked? text = (readInteger? text).bind checked := by
  unfold readChecked? readInteger?
  dsimp only
  split
  · rfl
  · split
    · next allDigits =>
        have zero : (0 : Int64).toInt = signed (splitSign text.toList).1 0 := by
          cases (splitSign text.toList).1 <;> rfl
        rw [foldlM_extend? zero (List.all_eq_true.mp allDigits), Nat.zero_mul, Nat.zero_add,
          digitsValue_eq_placeValue, Option.bind_some]
    · next notAll => exact foldlM_extend?_eq_none (by simpa using notAll)

end ParamSchema.Text
