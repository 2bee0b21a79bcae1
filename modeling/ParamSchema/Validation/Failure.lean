import ParamSchema.Path
import ParamSchema.TypeName.Basic

/-!
Contract: the ways in which an input violates a schema.

Owns:
- the failures, their stable codes and their messages;
- a failure together with the path at which it was found.

Does not own: when a failure arises (`Validation.Walk`).
-/

namespace ParamSchema

inductive Failure where
  | missing
  | nil
  /-- The type that was received is absent for a value that belongs to no type. -/
  | typeMismatch (received : Option TypeName) (expected : TypeName)
  | coercionFailed
  /-- A container without declarations holds a container. -/
  | nonScalarMember (container : TypeName)
  /-- A scalar node holds a container. -/
  | nonScalar
  | requiredKeysMissing (key : String)
  | keyNotAllowed (key : String)
  | requiredItemsMissing
  | indexNotAllowed (index : Nat)
  | notIncluded
  /-- A check rejects the value with a message. -/
  | invalid (message : String)
  | tooDeep

namespace Failure

def code : Failure → String
  | missing => "PARAM_MISSING"
  | nil => "PARAM_NIL"
  | typeMismatch _ _ => "PARAM_TYPE_MISMATCH"
  | coercionFailed => "PARAM_COERCION_FAILED"
  | nonScalarMember _ => "PARAM_UNPERMITTED_TYPE"
  | nonScalar => "PARAM_UNPERMITTED_TYPE"
  | requiredKeysMissing _ => "PARAM_REQUIRED_KEYS_MISSING"
  | keyNotAllowed _ => "PARAM_KEY_NOT_ALLOWED"
  | requiredItemsMissing => "PARAM_REQUIRED_ITEMS_MISSING"
  | indexNotAllowed _ => "PARAM_INDEX_NOT_ALLOWED"
  | notIncluded => "PARAM_NOT_INCLUDED"
  | invalid _ => "PARAM_INVALID"
  | tooDeep => "PARAM_TOO_DEEP"

/-- The message of a failure, without its place. -/
def message : Failure → String
  | missing => "is missing"
  | nil => "cannot be nil"
  | typeMismatch received expected =>
      "type mismatch (received " ++ TypeName.describe received ++ ", expected " ++
        expected.name ++ ")"
  | coercionFailed => "could not be coerced"
  | nonScalarMember container =>
      "unpermitted type (expected " ++ container.name ++ " of scalar types)"
  | nonScalar => "unpermitted type (expected scalar type)"
  | requiredKeysMissing key => "required keys are missing: " ++ key
  | keyNotAllowed key => "key " ++ key ++ " is not allowed"
  | requiredItemsMissing => "required items are missing"
  | indexNotAllowed index => "index " ++ Nat.repr index ++ " is not allowed"
  | notIncluded => "not included in set"
  | invalid message => message
  | tooDeep => "input too deeply nested"

end Failure

/-- The first violation found in an input, with the way to it. -/
structure ValidationError where
  path : Path
  failure : Failure

namespace ValidationError

def code (error : ValidationError) : String :=
  error.failure.code

def message (error : ValidationError) : String :=
  error.failure.message

/-- Code, place and message in one text. -/
def display (error : ValidationError) : String :=
  error.code ++ " at " ++ error.path.render ++ ": " ++ error.message

end ValidationError

end ParamSchema
