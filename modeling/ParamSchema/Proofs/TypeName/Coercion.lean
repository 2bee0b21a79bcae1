import ParamSchema.Proofs.Binary64.Denotation
import ParamSchema.Proofs.Binary64.Rounding
import ParamSchema.TypeName.Coercion

/-!
Contract: what conversions between types lead to.

Owns:
- that a converted value is of the type it was converted into;
- that a converted value is never blank;
- that the value was of another type, from which the table allows conversion;
- that containers are neither converted nor made by conversion.

Does not own: which texts and numbers are converted.
-/

namespace ParamSchema

/-! ## Texts that are not blank -/

namespace Text

theorem isBlank_eq_false {text : String} {character : Char} (member : character ∈ text.toList)
    (shown : isWhiteSpace character = false) : isBlank text = false := by
  unfold isBlank
  rw [List.all_eq_false]
  exact ⟨character, member, by simp [shown]⟩

theorem isWhiteSpace_of_isDigit {character : Char} (digit : character.isDigit = true) :
    isWhiteSpace character = false := by
  have range : 48 ≤ character.toNat ∧ character.toNat ≤ 57 := by
    simpa [Char.isDigit, UInt32.le_iff_toNat_le] using digit
  unfold isWhiteSpace
  simp only [Bool.or_eq_false_iff, Bool.and_eq_false_iff, decide_eq_false_iff_not,
    beq_eq_false_iff_ne]
  omega

theorem isBlank_integer (value : Int) : isBlank (integer value) = false := by
  have nonempty : Nat.toDigits 10 value.natAbs ≠ [] := Nat.toDigits_ne_nil
  obtain ⟨digit, member⟩ := List.exists_mem_of_ne_nil _ nonempty
  have isDigit := Nat.isDigit_of_mem_toDigits (by decide) (by decide) member
  have shown : digit ∈ (integer value).toList := by
    unfold integer
    split <;> simp [Nat.toList_repr, member]
  exact isBlank_eq_false shown (isWhiteSpace_of_isDigit isDigit)

end Text

namespace Binary64

theorem Decimal.isDigit_of_mem {decimal : Decimal} {character : Char}
    (member : character ∈ decimal.significantDigits) : character.isDigit = true := by
  unfold significantDigits at member
  rw [List.mem_reverse] at member
  have kept := (List.dropWhile_sublist _).subset member
  rw [List.mem_reverse] at kept
  exact Nat.isDigit_of_mem_toDigits (by decide) (by decide) kept

theorem isBlank_plainText (number : Binary64) :
    Text.isBlank (Layout.plain.text number) = false := by
  unfold Layout.text
  dsimp only
  generalize (if number.isNegative then "-" else "") = sign
  split
  · exact Text.isBlank_eq_false (show '0' ∈ _ by simp) (by decide)
  · generalize shortest Layout.plain.tie number = decimal
    unfold Layout.decimal
    dsimp only
    rw [if_pos (show Layout.plain.isPositional _ = true from rfl)]
    obtain ⟨character, member, cases⟩ := Layout.exists_mem_positional Layout.plain
      decimal.significantDigits (digitCount decimal.digits + decimal.exponent)
    refine Text.isBlank_eq_false (show character ∈ _ by simp [member]) ?_
    rcases cases with rfl | rfl | digit
    · decide
    · decide
    · exact Text.isWhiteSpace_of_isDigit (Decimal.isDigit_of_mem digit)

end Binary64

/-! ## Converted values -/

namespace TypeName

/-- What a conversion leads to is of the type that was asked for, and is not blank. -/
def Reached (target : TypeName) (result : Value) : Prop :=
  classify result = some target ∧ result.isBlank = false

theorem reached_integerValue {read : Option Int} {result : Value}
    (converted : integerValue? read = some result) : Reached .integer result := by
  obtain ⟨fitting, -, rfl⟩ := Option.map_eq_some_iff.mp converted
  exact ⟨rfl, rfl⟩

theorem reached_floatValue {text : String} {result : Value}
    (converted : floatValue? text = some result) : Reached .float result := by
  obtain ⟨nearest, -, chosen⟩ := Option.bind_eq_some_iff.mp converted
  by_cases finite : nearest.isFinite
  · rw [if_pos finite] at chosen
    cases chosen
    exact ⟨if_pos finite, rfl⟩
  · rw [if_neg finite] at chosen
    cases chosen

theorem reached_booleanValue {text : String} {result : Value}
    (converted : booleanValue? text = some result) : Reached .boolean result := by
  unfold booleanValue? at converted
  split at converted <;> cases converted <;> exact ⟨rfl, rfl⟩

theorem reached_booleanOfInteger {value : Int64} {result : Value}
    (converted : booleanOfInteger? value = some result) : Reached .boolean result := by
  unfold booleanOfInteger? at converted
  split at converted
  · cases converted
    exact ⟨rfl, rfl⟩
  · split at converted <;> cases converted
    exact ⟨rfl, rfl⟩

theorem orInvalid_eq_ok {target : TypeName} {value result : Value} {converted : Option Value}
    (same : orInvalid target value converted = .ok result) : converted = some result := by
  cases converted with
  | none => cases same
  | some found =>
      cases same
      rfl

/-- A converted value is of the type that it was converted into, and is not blank. -/
theorem reached_of_coerce {target : TypeName} {value result : Value}
    (converted : target.coerce value = .ok result) : Reached target result := by
  unfold coerce at converted
  dsimp only at converted
  split at converted
  · exact reached_integerValue (orInvalid_eq_ok converted)
  · exact reached_integerValue (orInvalid_eq_ok converted)
  · cases converted
    exact ⟨if_pos (Binary64.isFinite_ofInt64 _), rfl⟩
  · exact reached_floatValue (orInvalid_eq_ok converted)
  · cases converted
    exact ⟨rfl, Text.isBlank_integer _⟩
  · split at converted <;> cases converted
    exact ⟨rfl, Binary64.isBlank_plainText _⟩
  · cases converted
    refine ⟨rfl, ?_⟩
    split <;> decide
  · exact reached_booleanValue (orInvalid_eq_ok converted)
  · exact reached_booleanOfInteger (orInvalid_eq_ok converted)
  · cases converted

/-! ## Types that are converted -/

theorem mem_all (type : TypeName) : type ∈ all := by
  cases type <;> decide

/-- Values of a type without parts have no parts. -/
theorem isScalar_of_classify {value : Value} {type : TypeName}
    (ofType : classify value = some type) : value.isScalar = type.isScalar := by
  cases value with
  | float number =>
      simp only [classify, Option.ite_none_right_eq_some, Option.some.injEq] at ofType
      obtain ⟨-, rfl⟩ := ofType
      rfl
  | nil | boolean | integer | text | seq | map =>
      cases ofType
      rfl

/-- The table leads only into types without parts, and from no type into itself. -/
theorem scalar_and_ne_of_canCoerceFrom {target source : TypeName}
    (convertible : target.canCoerceFrom source = true) :
    target.isScalar = true ∧ source.isScalar = true ∧ source ≠ target := by
  cases target <;> cases source <;> first
    | exact ⟨rfl, rfl, by decide⟩
    | cases convertible

theorem classify_float {number : Binary64} (finite : number.isFinite = true) :
    classify (.float number) = some .float :=
  if_pos finite

/-- Whatever is converted is of a type from which the table allows it. -/
theorem source_of_coerce {target : TypeName} {value result : Value}
    (converted : target.coerce value = .ok result) :
    ∃ source, classify value = some source ∧ target.canCoerceFrom source = true := by
  unfold coerce at converted
  dsimp only at converted
  split at converted
  case h_2 number =>
    obtain ⟨fitting, read, -⟩ := Option.map_eq_some_iff.mp (orInvalid_eq_ok converted)
    have denotes := Binary64.toInt?_eq_some_iff.mp (Option.eq_some_of_filter_eq_some read)
    exact ⟨.float, classify_float denotes.1, rfl⟩
  case h_6 number =>
    split at converted
    · next finite => exact ⟨.float, classify_float finite, rfl⟩
    · cases converted
  case h_1 | h_4 | h_8 => exact ⟨.string, rfl, rfl⟩
  case h_3 | h_5 | h_9 => exact ⟨.integer, rfl, rfl⟩
  case h_7 => exact ⟨.boolean, rfl, rfl⟩
  case h_10 => cases converted

/-- What a conversion that succeeds has to do with the value that it converts. -/
structure SoundConversion (target : TypeName) (value result : Value) : Prop where
  /-- The value is of another type, from which the table allows the conversion. -/
  source : ∃ source ∈ all, classify value = some source ∧ target.canCoerceFrom source = true ∧
    source ≠ target
  /-- The result is of exactly the type that was asked for. -/
  target : classify result = some target
  finite : ∀ number, result = .float number → number.isFinite = true
  shown : result.isBlank = false
  scalar : result.isScalar = true

/-- Whatever the type and the value are, a conversion that succeeds is sound. -/
theorem coerce_sound {target : TypeName} {value result : Value}
    (converted : target.coerce value = .ok result) : SoundConversion target value result := by
  obtain ⟨source, ofSource, convertible⟩ := source_of_coerce converted
  obtain ⟨ofTarget, shown⟩ := reached_of_coerce converted
  obtain ⟨scalar, -, different⟩ := scalar_and_ne_of_canCoerceFrom convertible
  refine {
    source := ⟨source, mem_all source, ofSource, convertible, different⟩
    target := ofTarget
    finite := ?finite
    shown := shown
    scalar := (isScalar_of_classify ofTarget).trans scalar }
  case finite =>
    rintro number rfl
    exact (Option.ite_none_right_eq_some.mp ofTarget).1

/-- A tenth has no exact number, and is converted into the nearest one. -/
theorem coerce_tenth : coerce .float (.text "0.1") = .ok (.float ⟨0x3fb999999999999a⟩) := by
  have nearest : (Numeral.ofText? "0.1").map Numeral.nearest = some ⟨0x3fb999999999999a⟩ := by
    decide +kernel
  simp only [coerce, floatValue?, nearest, Option.bind_some]
  rfl

theorem coerce_tenth_sound :
    coerce .float (.text "0.1") = .ok (.float ⟨0x3fb999999999999a⟩) ∧
      SoundConversion .float (.text "0.1") (.float ⟨0x3fb999999999999a⟩) :=
  ⟨coerce_tenth, coerce_sound coerce_tenth⟩

end TypeName

end ParamSchema
