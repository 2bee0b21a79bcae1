import ParamSchema.Json.Basic

/-!
Contract: schema documents.

Owns:
- the definition of a parameter, with the definitions beneath it, and the document around one;
- the names of their fields and what an omitted field stands for;
- equality of documents, in which the numbers of inclusion lists compare as numbers.

Does not own: the JSON form (`Document.Encode`, `Document.Decode`) and the schema that a document
describes (`Document.Declare`).

A list of definitions that is present but empty differs from one that is absent.
-/

namespace ParamSchema

/-- One parameter as a document describes it. -/
structure ParamDefinition where
  /-- The key under the parent object; only fields need one. -/
  key : Option String := none
  /-- The name or an alias of a type. -/
  typeName : String
  optional : Bool := false
  allowNil : Bool := false
  allowBlank : Bool := true
  coerce : Bool := false
  allowNonScalars : Bool := false
  inclusion : List Json := []
  fields : Option (List ParamDefinition) := none
  /-- The items of an array, by position. -/
  items : Option (List ParamDefinition) := none
  /-- One definition for all elements of an array. -/
  each : Option ParamDefinition := none

/-- A schema for one action on one resource. -/
structure SchemaDocument where
  name : String
  action : String := "default"
  strict : Bool := true
  params : ParamDefinition

/-! ## Fields -/

inductive ParamField where
  | key
  | type
  | optional
  | allowNil
  | allowBlank
  | coerce
  | allowNonScalars
  | inclusion
  | fields
  | items
  | each
deriving DecidableEq

namespace ParamField

def all : List ParamField :=
  [.key, .type, .optional, .allowNil, .allowBlank, .coerce, .allowNonScalars, .inclusion, .fields,
    .items, .each]

def name : ParamField → String
  | key => "key"
  | type => "type"
  | optional => "optional"
  | allowNil => "allow_nil"
  | allowBlank => "allow_blank"
  | coerce => "coerce"
  | allowNonScalars => "allow_non_scalars"
  | inclusion => "inclusion"
  | fields => "fields"
  | items => "items"
  | each => "each"

def ofName? (name : String) : Option ParamField :=
  all.find? fun field => field.name == name

end ParamField

inductive DocumentField where
  | name
  | action
  | strict
  | params
deriving DecidableEq

namespace DocumentField

def all : List DocumentField :=
  [.name, .action, .strict, .params]

def label : DocumentField → String
  | name => "name"
  | action => "action"
  | strict => "strict"
  | params => "params"

def ofName? (name : String) : Option DocumentField :=
  all.find? fun field => field.label == name

end DocumentField

/-! ## Equality -/

namespace ParamDefinition

mutual

def equals : ParamDefinition → ParamDefinition → Bool
  | ⟨key, typeName, optional, allowNil, allowBlank, coerce, allowNonScalars, inclusion, fields,
      items, each⟩, other =>
      key == other.key && typeName == other.typeName && optional == other.optional &&
        allowNil == other.allowNil && allowBlank == other.allowBlank && coerce == other.coerce &&
        allowNonScalars == other.allowNonScalars &&
        Json.equalElements inclusion other.inclusion &&
        equalLists fields other.fields && equalLists items other.items &&
        equalOptions each other.each

def equalLists : Option (List ParamDefinition) → Option (List ParamDefinition) → Bool
  | none, none => true
  | some left, some right => equalAll left right
  | _, _ => false

def equalAll : List ParamDefinition → List ParamDefinition → Bool
  | [], [] => true
  | left :: lefts, right :: rights => left.equals right && equalAll lefts rights
  | _, _ => false

def equalOptions : Option ParamDefinition → Option ParamDefinition → Bool
  | none, none => true
  | some left, some right => left.equals right
  | _, _ => false

end

end ParamDefinition

def SchemaDocument.equals (left right : SchemaDocument) : Bool :=
  left.name == right.name && left.action == right.action && left.strict == right.strict &&
    left.params.equals right.params

end ParamSchema
