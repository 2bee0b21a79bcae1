import ParamSchema.Binary64.Shortest

/-!
Contract: the text of a finite binary64 number.

Owns:
- writing the shortest digits of a number positionally or with an exponent;
- the two layouts in use: that of JSON numbers and the plain one.

Does not own: the text of infinities and not-a-number words; neither layout is asked for it.
-/

namespace ParamSchema.Binary64

/-- What a layout decides about a number `d.ddd * 10 ^ exponent`. -/
structure Layout where
  /-- The exponents whose numbers are written without one. -/
  isPositional : Int → Bool
  /-- What follows the digits of a whole number that is written positionally. -/
  wholeTail : String
  /-- The choice between two decimals that are equally short and equally near. -/
  tie : Tie

/-- A JSON number always shows a point or an exponent. -/
def Layout.json : Layout where
  isPositional exponent := -5 ≤ exponent && exponent ≤ 15
  wholeTail := ".0"
  tie := .even

/-- A plain number has no exponent and no needless point. -/
def Layout.plain : Layout where
  isPositional _ := true
  wholeTail := ""
  tie := .above

def zeros (count : Nat) : String :=
  String.ofList (List.replicate count '0')

/-- The digits with the point `point` places behind the first one's left. -/
def Layout.positional (layout : Layout) (digits : List Char) (point : Int) : String :=
  if point ≤ 0 then "0." ++ zeros (-point).toNat ++ String.ofList digits
  else if digits.length ≤ point.toNat then
    String.ofList digits ++ zeros (point.toNat - digits.length) ++ layout.wholeTail
  else String.ofList (digits.take point.toNat) ++ "." ++ String.ofList (digits.drop point.toNat)

/-- A positional text is never without a zero, a point or one of its digits. -/
theorem Layout.exists_mem_positional (layout : Layout) (digits : List Char) (point : Int) :
    ∃ character ∈ (layout.positional digits point).toList,
      character = '0' ∨ character = '.' ∨ character ∈ digits := by
  unfold positional
  split
  · exact ⟨'0', by simp, .inl rfl⟩
  · next above =>
      split
      · cases digits with
        | nil =>
            have isOne : 1 ≤ point.toNat := by omega
            refine ⟨'0', ?_, .inl rfl⟩
            simp [zeros, Nat.ne_of_gt isOne]
        | cons digit rest => exact ⟨digit, by simp, .inr (.inr (by simp))⟩
      · exact ⟨'.', by simp, .inr (.inl rfl)⟩

/-- One digit, the others behind a point, and an exponent with its sign. -/
def scientific (digits : List Char) (exponent : Int) : String :=
  let rest := digits.drop 1
  let tail := if rest.isEmpty then "" else "." ++ String.ofList rest
  let sign := if exponent < 0 then "-" else "+"
  String.ofList (digits.take 1) ++ tail ++ "e" ++ sign ++ Nat.repr exponent.natAbs

/-- The digits of a decimal without the zeros at its end. -/
def Decimal.significantDigits (decimal : Decimal) : List Char :=
  ((Nat.toDigits 10 decimal.digits).reverse.dropWhile (· == '0')).reverse

/-- The text of a decimal above zero. -/
def Layout.decimal (layout : Layout) (decimal : Decimal) : String :=
  let point : Int := digitCount decimal.digits + decimal.exponent
  if layout.isPositional (point - 1) then layout.positional decimal.significantDigits point
  else scientific decimal.significantDigits (point - 1)

def Layout.text (layout : Layout) (number : Binary64) : String :=
  let sign := if number.isNegative then "-" else ""
  if number.isZero then sign ++ "0" ++ layout.wholeTail
  else sign ++ layout.decimal (shortest layout.tie number)

end ParamSchema.Binary64
