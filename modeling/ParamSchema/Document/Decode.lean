import ParamSchema.Document.Basic
import ParamSchema.Json.Decode

/-!
Contract: reading schema documents.

Owns:
- a parameter definition and a document from drafts, as an object of named fields or as a list of
  the fields in order;
- which fields are required, and the error of every departure from this.

Does not own: the JSON form that is written (`Document.Encode`); it is one of those read here.

Members are read in the order of the text. A field that was not written has its default, and a
required one that is missing is an error once the object is closed.
-/

namespace ParamSchema

open Json (Draft Fault ReadError Stop)

namespace ParamDefinition

/-- The words for what is wanted where a definition is due. -/
def wanted : String := "struct ParamDefinition"

/-- A definition in which no field has been read. -/
def unread : ParamDefinition := { typeName := "" }

/-- A definition with one more field read. The readings as a definition and as a list of
definitions are only asked for by the fields that hold them. -/
def assign (levels : Nat) (field : ParamField) (value : Draft)
    (asDefinition : Unit → Except ReadError ParamDefinition)
    (asDefinitions : Unit → Except ReadError (List ParamDefinition))
    (definition : ParamDefinition) : Except ReadError ParamDefinition :=
  match field with
  | .key => value.expectOptionalString.map fun read => { definition with key := read }
  | .type => value.expectString.map fun read => { definition with typeName := read }
  | .optional => value.expectBoolean.map fun read => { definition with optional := read }
  | .allowNil => value.expectBoolean.map fun read => { definition with allowNil := read }
  | .allowBlank => value.expectBoolean.map fun read => { definition with allowBlank := read }
  | .coerce => value.expectBoolean.map fun read => { definition with coerce := read }
  | .allowNonScalars =>
      value.expectBoolean.map fun read => { definition with allowNonScalars := read }
  | .inclusion => (value.expectTrees levels).map fun read => { definition with inclusion := read }
  | .fields =>
      if value.isNull then .ok { definition with fields := none }
      else (asDefinitions ()).map fun read => { definition with fields := some read }
  | .items =>
      if value.isNull then .ok { definition with items := none }
      else (asDefinitions ()).map fun read => { definition with items := some read }
  | .each =>
      if value.isNull then .ok { definition with each := none }
      else (asDefinition ()).map fun read => { definition with each := some read }

/-- What has been read when a list of fields ends: all fields that remain have their defaults, and
a required field is not among them. -/
def endOfList (remaining : List ParamField) (definition : ParamDefinition) (stop : Option Stop) :
    Except ReadError ParamDefinition := do
  if remaining.isEmpty then
    Draft.endOfFields [] stop
    return definition
  else
    ReadError.closed stop
    if remaining.contains .type then
      throw (.invalidLength 1 (wanted ++ " with 11 elements"))
    return definition

mutual

def decode (levels : Nat) : Draft → Except ReadError ParamDefinition
  | .object members stop =>
      match levels with
      | 0 => .error (.fault .tooManyLevels)
      | below + 1 => do
          let (seen, definition) ← decodeMembers below [] unread members
          ReadError.closed stop
          if seen.contains .type then return definition
          else throw (.missingField ParamField.type.name)
  | .array elements stop =>
      match levels with
      | 0 => .error (.fault .tooManyLevels)
      | below + 1 => decodeFields below stop ParamField.all unread elements
  | other => other.mismatch wanted

def decodeList (levels : Nat) : Draft → Except ReadError (List ParamDefinition)
  | .array elements stop =>
      match levels with
      | 0 => .error (.fault .tooManyLevels)
      | below + 1 => do
          let definitions ← decodeAll below elements
          ReadError.closed stop
          return definitions
  | other => other.mismatch "a sequence"

def decodeAll (levels : Nat) : List Draft → Except ReadError (List ParamDefinition)
  | [] => .ok []
  | element :: rest => do
      let head ← decode levels element
      let tail ← decodeAll levels rest
      return head :: tail

/-- The members of an object as fields, with the fields that have been seen. -/
def decodeMembers (levels : Nat) (seen : List ParamField) (definition : ParamDefinition) :
    List (Except Fault String × Draft) → Except ReadError (List ParamField × ParamDefinition)
  | [] => .ok (seen, definition)
  | (key, value) :: rest => do
      let name ← ReadError.lift key
      match ParamField.ofName? name with
      | none => throw (.unknownField name (ParamField.all.map ParamField.name))
      | some field =>
          if seen.contains field then throw (.duplicateField name)
          else
            let next ← assign levels field value (fun _ => decode levels value)
              (fun _ => decodeList levels value) definition
            decodeMembers levels (field :: seen) next rest

/-- The elements of a list as the fields in order. -/
def decodeFields (levels : Nat) (stop : Option Stop) (remaining : List ParamField)
    (definition : ParamDefinition) : List Draft → Except ReadError ParamDefinition
  | [] => endOfList remaining definition stop
  | element :: rest =>
      match remaining with
      | [] => .error (.fault .trailingCharacters)
      | field :: later => do
          let next ← assign levels field element (fun _ => decode levels element)
            (fun _ => decodeList levels element) definition
          decodeFields levels stop later next rest

end

end ParamDefinition

namespace SchemaDocument

/-- The words for what is wanted where a document is due. -/
def wanted : String := "struct SchemaDocument"

/-- A document as far as its fields have been read. -/
structure Partial where
  name : Option String := none
  action : Option String := none
  strict : Option Bool := none
  params : Option ParamDefinition := none

def Partial.has (read : Partial) : DocumentField → Bool
  | .name => read.name.isSome
  | .action => read.action.isSome
  | .strict => read.strict.isSome
  | .params => read.params.isSome

/-- A document with one more field read. -/
def Partial.assign (levels : Nat) (read : Partial) (value : Draft) :
    DocumentField → Except ReadError Partial
  | .name => value.expectString.map fun name => { read with name := some name }
  | .action => value.expectString.map fun action => { read with action := some action }
  | .strict => value.expectBoolean.map fun strict => { read with strict := some strict }
  | .params =>
      (ParamDefinition.decode levels value).map fun params => { read with params := some params }

/-- The document of what has been read, unless a required field is missing. -/
def Partial.finish (read : Partial) (missing : DocumentField → ReadError) :
    Except ReadError SchemaDocument :=
  match read.name, read.params with
  | none, _ => .error (missing .name)
  | some _, none => .error (missing .params)
  | some name, some params =>
      .ok ⟨name, read.action.getD "default", read.strict.getD true, params⟩

/-- The members of an object as fields. -/
def decodeMembers (levels : Nat) (read : Partial) :
    List (Except Fault String × Draft) → Except ReadError Partial
  | [] => .ok read
  | (key, value) :: rest => do
      let name ← ReadError.lift key
      match DocumentField.ofName? name with
      | none => throw (.unknownField name (DocumentField.all.map DocumentField.label))
      | some field =>
          if read.has field then throw (.duplicateField name)
          else
            let next ← read.assign levels value field
            decodeMembers levels next rest

/-- The error of a list that ends before a required field. -/
def tooShort (field : DocumentField) : ReadError :=
  let position := match field with
    | .name => 0
    | .action => 1
    | .strict => 2
    | .params => 3
  .invalidLength position (wanted ++ " with 4 elements")

/-- The elements of a list as the fields in order. -/
def decodeFields (levels : Nat) (stop : Option Stop) (remaining : List DocumentField)
    (read : Partial) : List Draft → Except ReadError SchemaDocument
  | [] => do
      if remaining.isEmpty then Draft.endOfFields [] stop else ReadError.closed stop
      read.finish tooShort
  | element :: rest =>
      match remaining with
      | [] => .error (.fault .trailingCharacters)
      | field :: later => do
          let next ← read.assign levels element field
          decodeFields levels stop later next rest

def decode (levels : Nat) : Draft → Except ReadError SchemaDocument
  | .object members stop =>
      match levels with
      | 0 => .error (.fault .tooManyLevels)
      | below + 1 => do
          let read ← decodeMembers below {} members
          ReadError.closed stop
          read.finish fun field => .missingField field.label
  | .array elements stop =>
      match levels with
      | 0 => .error (.fault .tooManyLevels)
      | below + 1 => decodeFields below stop DocumentField.all {} elements
  | other => other.mismatch wanted

/-- The document that a JSON text spells. -/
def parse (text : String) : Except ReadError SchemaDocument :=
  (Json.Document.ofText text).read (decode Json.levelLimit)

end SchemaDocument

end ParamSchema
