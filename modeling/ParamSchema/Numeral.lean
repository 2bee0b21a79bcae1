import ParamSchema.Binary64.Rounding
import ParamSchema.Text.Integer

/-!
Contract: decimal numerals and the binary64 numbers they stand for.

Owns:
- a numeral as written: sign, digits before and behind the point, exponent;
- reading a whole text as a numeral;
- the number nearest to a numeral, and the number that stepwise scaling of its leading digits gives.

Does not own: the grammar of JSON numbers, which is narrower (`Json.Token`).

The two valuations differ in the last place of some numerals: the nearest number rounds once, while
scaling rounds the leading digits and then every multiplication and division.
-/

namespace ParamSchema

/-- The exponent part of a numeral. -/
structure Exponent where
  negative : Bool
  digits : List Char

/-- A decimal numeral as written. -/
structure Numeral where
  negative : Bool
  whole : List Char
  /-- The digits behind the point, if there is a point. -/
  fraction : Option (List Char)
  exponent : Option Exponent

namespace Numeral

/-! ## Whole texts -/

/-- An exponent is a letter `e` of either case, an optional sign and at least one digit. -/
def readExponent? : List Char → Option (Option Exponent)
  | [] => some none
  | letter :: rest =>
      let (negative, digits) := Text.splitSign rest
      if (letter == 'e' || letter == 'E') && !digits.isEmpty && digits.all Char.isDigit then
        some (some ⟨negative, digits⟩)
      else none

/-- The digits behind a point, if one comes first, and the text behind them. -/
def splitFraction : List Char → Option (List Char) × List Char
  | '.' :: rest => (some (rest.takeWhile Char.isDigit), rest.dropWhile Char.isDigit)
  | rest => (none, rest)

/-- A numeral in a text has an optional sign, digits with at most one point among them, at least
one digit, and an optional exponent. -/
def ofText? (text : String) : Option Numeral :=
  let (negative, unsigned) := Text.splitSign text.toList
  let whole := unsigned.takeWhile Char.isDigit
  let (fraction, rest) := splitFraction (unsigned.dropWhile Char.isDigit)
  if whole.isEmpty && (fraction.getD []).isEmpty then none
  else (readExponent? rest).map fun exponent => ⟨negative, whole, fraction, exponent⟩

/-! ## The nearest number -/

/-- An exponent of more than this stops growing with further digits; the number is then zero or
infinite for every numeral of fewer digits. -/
def exponentCeiling : Nat := 65536

/-- The value of an exponent's digits, as far as the ceiling lets them count. -/
def cappedExponent (digits : List Char) : Nat :=
  let extend := fun (value : Nat) (digit : Char) =>
    if value < exponentCeiling then 10 * value + Text.digitsValue [digit] else value
  digits.foldl extend 0

/-- The power of ten that the digits of a numeral count, read as one natural number. -/
def power (numeral : Numeral) : Int :=
  let written := match numeral.exponent with
    | none => 0
    | some exponent => Text.signed exponent.negative (cappedExponent exponent.digits)
  written - (numeral.fraction.getD []).length

/-- The number nearest to a numeral, infinite when the numeral is out of range. -/
def nearest (numeral : Numeral) : Binary64 :=
  let digits := Text.digitsValue (numeral.whole ++ numeral.fraction.getD [])
  let power := numeral.power
  Binary64.ofQuotient numeral.negative (digits * Nat.pow 10 power.toNat)
    (Nat.pow 10 (-power).toNat)

/-! ## Stepwise scaling -/

/-- What is left of a run of digits when only so many are kept that the value stays below
`2 ^ 64`: the value, how many digits were kept and how many dropped. -/
structure Kept where
  value : Nat
  kept : Nat
  dropped : Nat

/-- Digits extend a value while it stays below `2 ^ 64`; after the first that does not fit, no
further digit of the run counts. -/
def keep (start : Nat) : List Char → Kept
  | [] => ⟨start, 0, 0⟩
  | digit :: rest =>
      let next := 10 * start + Text.digitsValue [digit]
      if next < 0x10000000000000000 then
        let tail := keep next rest
        { tail with kept := tail.kept + 1 }
      else ⟨start, 0, rest.length + 1⟩

/-- The largest power of ten among the binary64 numbers. -/
def largestPower : Nat := 308

/-- A number times `10 ^ power`, each step rounded, and `none` when a step leaves the finite range.

A power out of reach of one step is approached from below by dividing by `10 ^ 308`. -/
def scale (number : Binary64) (power : Int) : Option Binary64 :=
  if power.natAbs ≤ largestPower then
    let factor := Binary64.ofNat (Nat.pow 10 power.natAbs)
    if power < 0 then some (number.quotient factor)
    else
      let scaled := number.product factor
      if scaled.isFinite then some scaled else none
  else if number.isZero then some number
  else if 0 < power then none
  else scale (number.quotient (Binary64.ofNat (Nat.pow 10 largestPower))) (power + largestPower)
termination_by power.natAbs
decreasing_by simp only [largestPower] at *; omega

/-- The largest exponent that a numeral may write out. -/
def largestExponent : Nat := 0x7FFFFFFF

/-- The number that scaling the leading digits of a numeral gives, `none` when out of range.

Digits before the point that do not fit into 64 bits count as zeros and digits behind it not at
all. An exponent above the largest leaves only zero in range. -/
def scaled (numeral : Numeral) : Option Binary64 :=
  let whole := keep 0 numeral.whole
  let behind := keep whole.value (numeral.fraction.getD [])
  let significand := behind.value
  let withSign := fun (number : Binary64) => if numeral.negative then number.negate else number
  let start : Int := (whole.dropped : Int) - behind.kept
  match numeral.exponent with
  | none => (scale (Binary64.ofNat significand) start).map withSign
  | some exponent =>
      let written := Text.digitsValue exponent.digits
      if largestExponent < written then
        if significand = 0 || exponent.negative then some (withSign (Binary64.ofNat 0)) else none
      else
        let power := start + Text.signed exponent.negative written
        (scale (Binary64.ofNat significand) power).map withSign

end Numeral

end ParamSchema
