import ParamSchema.Json.Basic
import ParamSchema.Json.Fault
import ParamSchema.Numeral

/-!
Contract: number literals of JSON text.

Owns:
- the grammar of number literals;
- the number of a literal: an integer when it is written as one and fits, else a float.

Does not own: the scaling of digits to a float (`Numeral`).
-/

namespace ParamSchema.Json

/-! ## Grammar -/

/-- The fault of a number that lacks a digit: what follows is either wrong or missing. -/
def digitMissing : List Char → Stop
  | [] => ⟨.endInValue, .invalidNumber⟩
  | _ => .same .invalidNumber

/-- The digits before the point: a single zero, or digits that do not start with zero. -/
def wholeDigits (text : List Char) : Except Stop (List Char × List Char) :=
  match text.takeWhile Char.isDigit with
  | [] => .error (digitMissing text)
  | '0' :: _ :: _ => .error (.same .invalidNumber)
  | digits => .ok (digits, text.dropWhile Char.isDigit)

/-- At least one digit. -/
def someDigits (text : List Char) : Except Stop (List Char × List Char) :=
  match text.takeWhile Char.isDigit with
  | [] => .error (digitMissing (text.dropWhile Char.isDigit))
  | digits => .ok (digits, text.dropWhile Char.isDigit)

/-- A point and the digits behind it, if a point comes first. -/
def fractionPart : List Char → Except Stop (Option (List Char) × List Char)
  | '.' :: rest => (someDigits rest).map fun (digits, behind) => (some digits, behind)
  | rest => .ok (none, rest)

/-- An exponent, if a letter `e` of either case comes first. -/
def exponentPart : List Char → Except Stop (Option Exponent × List Char)
  | [] => .ok (none, [])
  | letter :: rest =>
      if letter = 'e' ∨ letter = 'E' then
        let (negative, unsigned) := Text.splitSign rest
        (someDigits unsigned).map fun (digits, behind) => (some ⟨negative, digits⟩, behind)
      else .ok (none, letter :: rest)

/-- A number literal without its sign, and the text behind it. -/
def numeral (negative : Bool) (text : List Char) : Except Stop (Numeral × List Char) := do
  let (whole, behindWhole) ← wholeDigits text
  let (fraction, behindFraction) ← fractionPart behindWhole
  let (exponent, behind) ← exponentPart behindFraction
  return (⟨negative, whole, fraction, exponent⟩, behind)

/-! ## Value -/

/-- A literal is an integer when it has neither point nor exponent and its value fits into 64
bits, unsigned from zero up and signed below; a zero with a minus sign is not one. -/
def integer? (numeral : Numeral) : Option Number :=
  if numeral.fraction.isSome || numeral.exponent.isSome then none
  else
    let value := Text.digitsValue numeral.whole
    if numeral.negative then
      if h : 0 < value ∧ value ≤ 0x8000000000000000 then
        some (.integer (-(value : Int)) (by omega) (by omega))
      else none
    else if h : value < 0x10000000000000000 then some (.integer value (by omega) (by omega))
    else none

/-- The number of a literal; only floats can be out of range. -/
def numberOf (numeral : Numeral) : Except Fault Number :=
  match integer? numeral with
  | some found => .ok found
  | none =>
      match numeral.scaled with
      | none => .error .numberOutOfRange
      | some value =>
          if finite : value.isFinite = true then .ok (.float value finite)
          else .error .numberOutOfRange

end ParamSchema.Json
