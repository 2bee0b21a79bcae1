/-!
Contract: decimal text of integers.

Owns:
- the text of an integer, with a leading `-` below zero;
- reading an integer: at most one sign, then one or more ASCII digits and nothing else.

Does not own: bounds on the value, which the reader's caller checks.
-/

namespace ParamSchema.Text

/-- The value of a list of decimal digits, the first being the most significant. -/
def digitsValue (digits : List Char) : Nat :=
  Nat.ofDigitChars 10 digits 0

/-- The sign in front of a numeral, true for `-`, and the text behind it. -/
def splitSign : List Char → Bool × List Char
  | '-' :: rest => (true, rest)
  | '+' :: rest => (false, rest)
  | rest => (false, rest)

/-- The integer of a magnitude under a sign. -/
def signed (negative : Bool) (magnitude : Nat) : Int :=
  if negative then -(magnitude : Int) else magnitude

/-- The decimal text of an integer has no leading zero and no `+`. -/
def integer (value : Int) : String :=
  if value < 0 then "-" ++ Nat.repr value.natAbs else Nat.repr value.natAbs

/-- An integer is an optional sign and at least one digit; nothing else stands with them. -/
def readInteger? (text : String) : Option Int :=
  let (negative, digits) := splitSign text.toList
  if digits.isEmpty then none
  else if digits.all Char.isDigit then some (signed negative (digitsValue digits))
  else none

end ParamSchema.Text
