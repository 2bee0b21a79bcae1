import ParamSchema.Value.Basic

/-!
Contract: the registered types and the values that belong to them.

Owns:
- the seven types, their names and the aliases they are looked up by;
- which types are scalar, and the type of a value;
- which types can be converted into which.

Does not own: the conversions themselves (`TypeName.Coercion`).
-/

namespace ParamSchema

inductive TypeName where
  | nil
  | boolean
  | integer
  | float
  | string
  | object
  | array
deriving DecidableEq

namespace TypeName

def all : List TypeName :=
  [.nil, .boolean, .integer, .float, .string, .object, .array]

def name : TypeName → String
  | nil => "nil"
  | boolean => "boolean"
  | integer => "integer"
  | float => "float"
  | string => "string"
  | object => "object"
  | array => "array"

/-- The type of exactly that name. -/
def ofName? (name : String) : Option TypeName :=
  all.find? fun type => type.name == name

/-- The type that a name or an alias of any case stands for. -/
def lookup (name : String) : Option TypeName :=
  match name.toLower with
  | "nil" | "null" => some .nil
  | "boolean" | "bool" => some .boolean
  | "integer" | "int" => some .integer
  | "float" | "number" => some .float
  | "string" | "str" => some .string
  | "object" | "hash" => some .object
  | "array" | "list" => some .array
  | _ => none

/-- Objects and arrays have parts, all other types are scalar. -/
def isScalar : TypeName → Bool
  | object | array => false
  | _ => true

/-- Only types with parts accept declarations beneath them. -/
def acceptsChildren (type : TypeName) : Bool :=
  !type.isScalar

/-- The types whose values can be converted into a type. -/
def coercibleFrom : TypeName → List TypeName
  | nil => []
  | boolean => [.string, .integer]
  | integer => [.string, .float]
  | float => [.integer, .string]
  | string => [.integer, .float, .boolean]
  | object => []
  | array => []

/-- Whether values of an observed type can be converted into a type. -/
def canCoerceFrom (type observed : TypeName) : Bool :=
  type.coercibleFrom.contains observed

/-- A value of an observed type does not match a type when it is neither of it nor nil. -/
def mismatches (type observed : TypeName) : Bool :=
  observed != type && observed != .nil

/-- The type of a value. A float that is not finite belongs to no type. -/
def classify : Value → Option TypeName
  | .nil => some .nil
  | .boolean _ => some .boolean
  | .integer _ => some .integer
  | .float value => if value.isFinite then some .float else none
  | .text _ => some .string
  | .seq _ => some .array
  | .map _ => some .object

/-- The name of the type of a value, as messages give it. -/
def describe (type : Option TypeName) : String :=
  match type with
  | some type => type.name
  | none => "unknown"

end TypeName

end ParamSchema
