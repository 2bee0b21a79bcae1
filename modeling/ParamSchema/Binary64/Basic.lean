/-!
Contract: binary64 numbers as words of 64 bits.

Owns:
- the fields of a word, and the exact magnitude that a finite word denotes;
- the classes finite, zero and not-a-number, the sign flip and numeric equality;
- the exact integer that a finite word denotes, if it denotes one.

Does not own: rounding (`Binary64.Rounding`) and text (`Binary64.Shortest`,
`Binary64.Layout`, `Numeral`).

A finite word denotes plus or minus `magnitude / 2 ^ 1074`, so every comparison of numbers is one
of natural numbers.
-/

namespace ParamSchema

/-- A binary64 number is its word. -/
structure Binary64 where
  bits : UInt64
deriving DecidableEq

namespace Binary64

/-- The number whose word has the given value, taken modulo `2 ^ 64`. -/
def ofWord (word : Nat) : Binary64 :=
  ⟨UInt64.ofNat word⟩

/-- The word as a natural number below `2 ^ 64`. -/
def word (number : Binary64) : Nat :=
  number.bits.toNat

/-! ## Fields -/

/-- The topmost bit is the sign. -/
def isNegative (number : Binary64) : Bool :=
  decide (0x8000000000000000 ≤ number.word)

/-- The eleven bits below the sign. -/
def biasedExponent (number : Binary64) : Nat :=
  number.word / 0x10000000000000 % 0x800

/-- The lowest 52 bits. -/
def fraction (number : Binary64) : Nat :=
  number.word % 0x10000000000000

/-- The biased exponent with all bits set marks infinities and not-a-number words. -/
def exponentLimit : Nat := 2047

/-- A finite number is one whose exponent is below the limit. -/
def isFinite (number : Binary64) : Bool :=
  decide (number.biasedExponent < exponentLimit)

/-- A word is not a number when its exponent is at the limit and its fraction is not zero. -/
def isNaN (number : Binary64) : Bool :=
  !number.isFinite && number.fraction != 0

/-- The significand has an implicit leading bit above the fraction, unless the biased exponent is
zero. -/
def significand (number : Binary64) : Nat :=
  if number.biasedExponent = 0 then number.fraction else 0x10000000000000 + number.fraction

/-- The power of two that the significand counts, in units of `2 ^ -1074`. -/
def scale (number : Binary64) : Nat :=
  number.biasedExponent - 1

/-- The distance from zero of a finite number, in units of `2 ^ -1074`. -/
def magnitude (number : Binary64) : Nat :=
  number.significand * Nat.pow 2 number.scale

/-- The units of `magnitude` in one. -/
def one : Nat := Nat.pow 2 1074

/-- Zero has two words, one for each sign. -/
def isZero (number : Binary64) : Bool :=
  number.isFinite && number.magnitude == 0

/-! ## Operations -/

def negate (number : Binary64) : Binary64 :=
  ⟨number.bits + 0x8000000000000000⟩

/-- The one word that stands for every result that is not a number. -/
def notANumber : Binary64 :=
  ⟨0x7ff8000000000000⟩

/-- Numeric equality: the two zeros are equal, and what is not a number equals nothing. -/
def numericEq (left right : Binary64) : Bool :=
  !left.isNaN && !right.isNaN && ((left.isZero && right.isZero) || left == right)

/-- The integer that a finite number denotes, when its magnitude is a whole number of ones. -/
def toInt? (number : Binary64) : Option Int :=
  if number.isFinite && number.magnitude % one == 0 then
    let units := number.magnitude / one
    some (if number.isNegative then -(units : Int) else units)
  else none

end Binary64

end ParamSchema
