import ParamSchema.Document.Basic

/-!
Contract: the JSON form of schema documents.

Owns:
- the tree of a document, with its members in the order of the fields; a key or a list of
  definitions that is absent, and an empty inclusion list, are omitted;
- the text of a document.

Does not own: reading documents (`Document.Decode`).
-/

namespace ParamSchema

/-- A member that is there only if it has a value. -/
def optionalMember (field : ParamField) : Option Json → List (String × Json)
  | none => []
  | some value => [(field.name, value)]

/-- An inclusion list is a member unless it is empty. -/
def inclusionMember (inclusion : List Json) : Option Json :=
  if inclusion.isEmpty then none else some (.array inclusion)

namespace ParamDefinition

mutual

/-- The tree of a definition. -/
def toJson : ParamDefinition → Json
  | ⟨key, typeName, optional, allowNil, allowBlank, coerce, allowNonScalars, inclusion, fields,
      items, each⟩ =>
      .object
        (optionalMember .key (key.map .string) ++
          [(ParamField.type.name, .string typeName),
            (ParamField.optional.name, .boolean optional),
            (ParamField.allowNil.name, .boolean allowNil),
            (ParamField.allowBlank.name, .boolean allowBlank),
            (ParamField.coerce.name, .boolean coerce),
            (ParamField.allowNonScalars.name, .boolean allowNonScalars)] ++
          optionalMember .inclusion (inclusionMember inclusion) ++
          optionalMember .fields (listToJson fields) ++
          optionalMember .items (listToJson items) ++
          optionalMember .each (optionToJson each))

/-- The tree of a list of definitions, if there is one. -/
def listToJson : Option (List ParamDefinition) → Option Json
  | none => none
  | some definitions => some (.array (allToJson definitions))

/-- The trees of definitions. -/
def allToJson : List ParamDefinition → List Json
  | [] => []
  | definition :: rest => definition.toJson :: allToJson rest

/-- The tree of a definition, if there is one. -/
def optionToJson : Option ParamDefinition → Option Json
  | none => none
  | some definition => some definition.toJson

end

end ParamDefinition

namespace SchemaDocument

/-- The tree of a document. -/
def toJson (document : SchemaDocument) : Json :=
  .object
    [(DocumentField.name.label, .string document.name),
      (DocumentField.action.label, .string document.action),
      (DocumentField.strict.label, .boolean document.strict),
      (DocumentField.params.label, document.params.toJson)]

/-- The text of a document. -/
def render (document : SchemaDocument) : String :=
  document.toJson.render

end SchemaDocument

end ParamSchema
