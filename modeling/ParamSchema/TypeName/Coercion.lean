import ParamSchema.Numeral
import ParamSchema.TypeName.Basic
import ParamSchema.Value.Json

/-!
Contract: conversions between scalar types.

Owns:
- converting a value into a type, and the two ways in which that fails.

Does not own: whether a schema asks for conversion (`Validation.Walk`).
-/

namespace ParamSchema

inductive CoercionError where
  /-- There is no conversion between the types. -/
  | unsupported (source : Option TypeName) (target : TypeName)
  /-- There is one, but not for this value. -/
  | invalid (value : Value) (target : TypeName)

def CoercionError.message : CoercionError → String
  | unsupported source target =>
      "no coercion from " ++ TypeName.describe source ++ " to " ++ target.name
  | invalid value target => "cannot coerce " ++ value.display ++ " to " ++ target.name

namespace TypeName

/-- The integers that a value can hold. -/
def fitsInteger (value : Int) : Bool :=
  decide (-0x8000000000000000 ≤ value) && decide (value < 0x8000000000000000)

/-- An integer value, if the integer fits. -/
def integerValue? (value : Option Int) : Option Value :=
  (value.filter fitsInteger).map fun fitting => .integer (Int64.ofInt fitting)

/-- The finite number nearest to a text that is a numeral. -/
def floatValue? (text : String) : Option Value :=
  ((Numeral.ofText? text).map Numeral.nearest).bind fun nearest =>
    if nearest.isFinite then some (.float nearest) else none

/-- The truth value that a text of any case stands for. -/
def booleanValue? (text : String) : Option Value :=
  match text.toLower with
  | "true" | "t" | "1" | "yes" | "on" => some (.boolean true)
  | "false" | "f" | "0" | "no" | "off" => some (.boolean false)
  | _ => none

/-- The truth value that an integer stands for. -/
def booleanOfInteger? (value : Int64) : Option Value :=
  if value = 1 then some (.boolean true)
  else if value = 0 then some (.boolean false)
  else none

/-- The outcome of a conversion that not every value of a type allows. -/
def orInvalid (target : TypeName) (value : Value) : Option Value → Except CoercionError Value
  | some result => .ok result
  | none => .error (.invalid value target)

/-- A value converted into a type. A text or float becomes the integer that it denotes exactly; an
integer becomes the nearest float. -/
def coerce (target : TypeName) (value : Value) : Except CoercionError Value :=
  let unsupported := .error (.unsupported (classify value) target)
  match target, value with
  | .integer, .text text => orInvalid target value (integerValue? (Text.readInteger? text))
  | .integer, .float number => orInvalid target value (integerValue? number.toInt?)
  | .float, .integer number => .ok (.float (Binary64.ofInt number.toInt))
  | .float, .text text => orInvalid target value (floatValue? text)
  | .string, .integer number => .ok (.text (Text.integer number.toInt))
  | .string, .float number =>
      if number.isFinite then .ok (.text (Binary64.Layout.plain.text number)) else unsupported
  | .string, .boolean flag => .ok (.text (if flag then "true" else "false"))
  | .boolean, .text text => orInvalid target value (booleanValue? text)
  | .boolean, .integer number => orInvalid target value (booleanOfInteger? number)
  | _, _ => unsupported

end TypeName

end ParamSchema
