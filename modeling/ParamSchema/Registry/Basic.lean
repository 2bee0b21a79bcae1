import ParamSchema.Document.Declare
import ParamSchema.Validation.Validator

/-!
Contract: schemas registered under a name and an action.

Owns:
- the registry, its keys in order, and looking a schema up;
- registering a schema, which never replaces one, and validating by a registered schema;
- the errors of a registry, and what an operation replies.

Does not own: definition files (`Registry.Files`).
-/

namespace ParamSchema

inductive RegistryError where
  /-- A definition file cannot be read, or is not a document. -/
  | malformed (path reason : String)
  /-- A document breaks a rule of declarations. -/
  | definition (path : String) (source : DefinitionError)
  | alreadyRegistered (name action : String)
  | unknownSchema (name action : String)
  | validation (error : ValidationError)

/-- A name and an action between words. -/
private def pairText (name action : String) : String :=
  "schema '" ++ name ++ "' for action '" ++ action ++ "'"

def RegistryError.message : RegistryError → String
  | malformed path reason => "malformed schema file '" ++ path ++ "': " ++ reason
  | definition path source => "invalid schema '" ++ path ++ "': " ++ source.message
  | alreadyRegistered name action => pairText name action ++ " is already registered"
  | unknownSchema name action => pairText name action ++ " not found"
  | validation error => error.display

/-- Schemas by name and action, in the order in which they were registered. -/
structure Registry where
  entries : List ((String × String) × Schema) := []
  config : EngineConfig := {}

/-- What an operation leads to: the registry afterwards, the result, and the records it logs. -/
structure Reply (α : Type) where
  registry : Registry
  result : Except RegistryError α
  records : List Record

namespace Registry

def get? (registry : Registry) (name action : String) : Option Schema :=
  registry.entries.lookup (name, action)

def contains (registry : Registry) (name action : String) : Bool :=
  (registry.get? name action).isSome

def size (registry : Registry) : Nat :=
  registry.entries.length

/-- Pairs are ordered by name, then by action. -/
def pairLe (left right : String × String) : Bool :=
  decide (left.1 < right.1) || (left.1 == right.1 && decide (left.2 ≤ right.2))

/-- The names and actions in order. -/
def keys (registry : Registry) : List (String × String) :=
  (registry.entries.map Prod.fst).mergeSort pairLe

def registered (name action : String) : Record :=
  ⟨.info, .schemaRegistered, [("name", name), ("action", action)]⟩

/-- Registers a schema, unless its name and action have one. -/
def register (registry : Registry) (name action : String) (schema : Schema) : Reply Unit :=
  if registry.contains name action then
    ⟨registry, .error (.alreadyRegistered name action), []⟩
  else
    ⟨{ registry with entries := registry.entries ++ [((name, action), schema)] }, .ok (),
      [registered name action]⟩

/-- Registers the schema of a document that stands at a path. -/
def registerFrom (registry : Registry) (path : String) (document : SchemaDocument) : Reply Unit :=
  match document.toSchema with
  | .error source => ⟨registry, .error (.definition path source), []⟩
  | .ok schema => registry.register document.name document.action schema

/-- Registers the schema of a document. -/
def registerDocument (registry : Registry) (document : SchemaDocument) : Reply Unit :=
  registry.registerFrom "<in-memory>" document

/-- Validates an input by the schema of a name and an action. -/
def validate (registry : Registry) (name action : String) (input : Value) : Reply Value :=
  match registry.get? name action with
  | none => ⟨registry, .error (.unknownSchema name action), []⟩
  | some schema =>
      let verdict := schema.validate registry.config input
      let result := match verdict with
        | .ok output => .ok output
        | .error error => .error (.validation error)
      ⟨registry, result, [verdict.record]⟩

end Registry

end ParamSchema
