import ParamSchema.Document.Basic
import ParamSchema.Schema.Declaration
import ParamSchema.Value.Json

/-!
Contract: the schema that a document describes.

Owns:
- the declarations of a parameter definition, in document order;
- the definitions that no declaration can be made of.

Does not own: the rules of declarations, which hold for documents as for any others.
-/

namespace ParamSchema

namespace ParamDefinition

/-- A definition has children when it mentions any, even an empty list of them. -/
def hasChildren (definition : ParamDefinition) : Bool :=
  definition.fields.isSome || definition.items.isSome || definition.each.isSome

/-- The options of a definition; hooks have no form in a document. -/
def options (definition : ParamDefinition) : Options where
  optional := definition.optional
  allowNil := definition.allowNil
  allowBlank := definition.allowBlank
  coerce := definition.coerce
  allowNonScalars := definition.allowNonScalars
  inclusion := Value.ofElements definition.inclusion

/-- An array cannot declare both positions and one node for all elements. -/
def ambiguity (items : Option (List ParamDefinition)) (each : Option ParamDefinition) :
    List Declaration :=
  if items.isSome && each.isSome then
    [.reject (.invalidDefinition "an array declares either items or each, not both")]
  else []

/-- The declaration of a definition in a slot, with the declarations beneath it. -/
def declaration (definition : ParamDefinition) (leaf block : Keyword) (slot : Slot)
    (body : List Declaration) : Declaration :=
  match TypeName.lookup definition.typeName with
  | none => .reject (.unknownType definition.typeName)
  | some type =>
      if definition.hasChildren then .block ⟨block, slot, type, definition.options⟩ body
      else .leaf ⟨leaf, slot, type, definition.options⟩

/-- The declaration of a field, which has to have a key. -/
def fieldDeclaration (definition : ParamDefinition) (body : List Declaration) : Declaration :=
  match definition.key with
  | none =>
      .reject (.invalidDefinition ("field of type " ++ definition.typeName ++ " has no key"))
  | some key => definition.declaration .field .fieldWith (.field key) body

mutual

/-- The declarations beneath a definition: fields, then items, then the template. -/
def body : ParamDefinition → List Declaration
  | ⟨_, _, _, _, _, _, _, _, fields, items, each⟩ =>
      ambiguity items each ++ fieldBodies fields ++ itemBodies items ++ templateBody each

/-- The declarations of fields, if there are any. -/
def fieldBodies : Option (List ParamDefinition) → List Declaration
  | none => []
  | some definitions => fieldsBody definitions

/-- The declarations of a list of fields. -/
def fieldsBody : List ParamDefinition → List Declaration
  | [] => []
  | definition :: rest => definition.fieldDeclaration definition.body :: fieldsBody rest

/-- The declarations of items, if there are any. -/
def itemBodies : Option (List ParamDefinition) → List Declaration
  | none => []
  | some definitions => itemsBody definitions

/-- The declarations of a list of items. -/
def itemsBody : List ParamDefinition → List Declaration
  | [] => []
  | definition :: rest =>
      definition.declaration .item .itemWith (.item none) definition.body :: itemsBody rest

/-- The declaration of a template, if there is one. -/
def templateBody : Option ParamDefinition → List Declaration
  | none => []
  | some definition =>
      [definition.declaration .items .itemsWith .template definition.body]

end

end ParamDefinition

/-- The schema of a document. -/
def SchemaDocument.toSchema (document : SchemaDocument) : Except DefinitionError Schema :=
  let params := document.params
  match TypeName.lookup params.typeName with
  | none => .error (.unknownType params.typeName)
  | some type =>
      if params.hasChildren then Schema.define type params.options document.strict params.body
      else .ok (Schema.leaf type params.options document.strict)

end ParamSchema
