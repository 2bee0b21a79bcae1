import ParamSchema.Json.Decode
import ParamSchema.Value.Basic

/-!
Contract: values as JSON and JSON as values.

Owns:
- the two conversions, part by part; a float that JSON cannot express becomes null, and an integer
  that a value cannot hold becomes a float;
- the text of a value, and reading one.

Does not own: the form of JSON text (`Json`).
-/

namespace ParamSchema

/-- A JSON number as a value: an integer if it fits into 63 bits and a sign, else a float. -/
def Value.ofNumber : Json.Number → Value
  | .integer value _ _ =>
      if value < 0x8000000000000000 then .integer (Int64.ofInt value)
      else .float (Binary64.ofInt value)
  | .float value _ => .float value

/-- An integer as a JSON number. -/
def Json.Number.ofInt64 (value : Int64) : Json.Number :=
  .integer value.toInt value.le_toInt (Int.lt_trans value.toInt_lt (by decide))

/-- A float as JSON, null when it is not finite. -/
def Json.ofFloat (value : Binary64) : Json :=
  if finite : value.isFinite = true then .number (.float value finite) else .null

namespace Value

mutual

def ofJson : Json → Value
  | .null => .nil
  | .boolean value => .boolean value
  | .number value => .ofNumber value
  | .string value => .text value
  | .array elements => .seq (ofElements elements)
  | .object members => .map (ofMembers members)

def ofElements : List Json → List Value
  | [] => []
  | element :: rest => ofJson element :: ofElements rest

/-- The values of the members of an object, under the same keys. -/
def ofMembers : List (String × Json) → List (String × Value)
  | [] => []
  | (key, value) :: rest => (key, ofJson value) :: ofMembers rest

end

mutual

def toJson : Value → Json
  | .nil => .null
  | .boolean value => .boolean value
  | .integer value => .number (.ofInt64 value)
  | .float value => .ofFloat value
  | .text value => .string value
  | .seq elements => .array (elementsToJson elements)
  | .map entries => .object (entriesToJson entries)

def elementsToJson : List Value → List Json
  | [] => []
  | element :: rest => element.toJson :: elementsToJson rest

/-- The trees of the values of entries, under the same keys. -/
def entriesToJson : List (String × Value) → List (String × Json)
  | [] => []
  | (key, value) :: rest => (key, value.toJson) :: entriesToJson rest

end

/-- The text of a value is that of its JSON tree. -/
def display (value : Value) : String :=
  value.toJson.render

/-- The value that a JSON text spells. -/
def parse (text : String) : Except Json.ReadError Value :=
  (Json.parse text).map ofJson

end Value

end ParamSchema
