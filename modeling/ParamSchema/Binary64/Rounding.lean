import ParamSchema.Binary64.Basic

/-!
Contract: binary64 numbers nearest to exact rational numbers.

Owns:
- rounding a quotient of natural numbers to the nearest number, a tie to the even significand;
- the numbers nearest to integers, and products and quotients of finite numbers.

Does not own: the order in which a reader of numerals rounds (`Numeral`).
-/

namespace ParamSchema.Binary64

/-- The natural number nearest to a quotient; a half goes to the even neighbour. -/
def roundQuotient (numerator denominator : Nat) : Nat :=
  let floor := numerator / denominator
  let twice := 2 * (numerator % denominator)
  if twice < denominator then floor
  else if denominator < twice then floor + 1
  else if floor % 2 = 0 then floor
  else floor + 1

/-- The word of infinity. -/
def infinityWord : Nat := exponentLimit * 0x10000000000000

/-- The number nearest to `numerator / denominator` units of `2 ^ -1074`.

The scale is the least one at which the quotient has at most 53 binary digits; a significand that
rounds up to `2 ^ 53` carries into the exponent of the word by itself. -/
def ofUnits (negative : Bool) (numerator denominator : Nat) : Binary64 :=
  let scale := Nat.log2 (numerator / denominator) - 52
  let rounded := roundQuotient numerator (denominator * Nat.pow 2 scale)
  let word := min (scale * 0x10000000000000 + rounded) infinityWord
  ofWord (if negative then 0x8000000000000000 + word else word)

/-- The number nearest to `numerator / denominator`. -/
def ofQuotient (negative : Bool) (numerator denominator : Nat) : Binary64 :=
  ofUnits negative (numerator * one) denominator

/-- The number nearest to a natural number. -/
def ofNat (value : Nat) : Binary64 :=
  ofQuotient false value 1

/-- The number nearest to an integer; zero has no sign. -/
def ofInt (value : Int) : Binary64 :=
  ofQuotient (decide (value < 0)) value.natAbs 1

/-- The number nearest to the product of two finite numbers. -/
def product (left right : Binary64) : Binary64 :=
  ofUnits (left.isNegative != right.isNegative) (left.magnitude * right.magnitude) one

/-- The number nearest to the quotient of two finite numbers, the second not zero. -/
def quotient (left right : Binary64) : Binary64 :=
  ofUnits (left.isNegative != right.isNegative) (left.magnitude * one) right.magnitude

end ParamSchema.Binary64
