import ParamSchema.Schema.Basic
import ParamSchema.TypeName.Coercion
import ParamSchema.Validation.Failure
import ParamSchema.Value.Nesting

/-!
Contract: reducing an input to an output by a schema.

Owns:
- the rules at one node: type or conversion, nil, members without declarations, hooks;
- the walks over the entries of a map and the elements of a list, given what visits a child;
- the visit of a node, and the call on a whole input.

Does not own: the configured limit on depth and the log (`Validation.Validator`).

The first violation ends the walk. A child is visited with the path to its value, so an error
carries the way from the root.
-/

namespace ParamSchema

/-- An output, or the first violation. -/
abbrev Verdict := Except ValidationError

/-- What visits a child on a value at a path. -/
abbrev Visitor := NodeId → Value → Path → Verdict Value

namespace Node

/-! ## One node -/

/-- Nil passes where the type is nil, or the value is optional or may be nil. -/
def acceptsNil (node : Node) : Bool :=
  node.type == .nil || node.options.optional || node.options.allowNil

/-- The value that a node goes on with: the input if its type matches, else the converted input if
the node converts and the types allow it. -/
def conform (node : Node) (observed : TypeName) (input : Value) : Except Failure Value :=
  if node.type.mismatches observed then
    if node.options.coerce && node.type.canCoerceFrom observed then
      match node.type.coerce input with
      | .ok converted => .ok converted
      | .error _ => .error .coercionFailed
    else .error (.typeMismatch (some observed) node.type)
  else .ok input

/-- A value is included when it equals one of the values to choose from, if there are any. -/
def includes (node : Node) (value : Value) : Bool :=
  node.options.inclusion.isEmpty || node.options.inclusion.any fun choice => choice.equals value

/-- The verdict of the check of a node; a node without a check accepts. -/
def verdict (node : Node) (value : Value) : Except String Unit :=
  match node.options.check with
  | some check => check.run value
  | none => .ok ()

/-- The transform of a node applied to a value; a node without a transform leaves it as it is. -/
def transformed (node : Node) (value : Value) : Value :=
  match node.options.transform with
  | some transform => transform value
  | none => value

/-- The hooks in order: inclusion, check, transform. -/
def applyHooks (node : Node) (path : Path) (value : Value) : Verdict Value :=
  if node.includes value then
    match node.verdict value with
    | .error message => .error ⟨path, .invalid message⟩
    | .ok _ => .ok (node.transformed value)
  else .error ⟨path, .notIncluded⟩

/-! ## Members without declarations -/

/-- A member of a container without declarations is a scalar, or a container where the node allows
one; such a container is kept as it is and has to fit under the limit with all its levels. -/
def checkMember (node : Node) (container : TypeName) (limit depth : Nat) (value : Value)
    (path : Path) : Verdict Unit :=
  if value.isScalar then .ok ()
  else if !node.options.allowNonScalars then .error ⟨path, .nonScalarMember container⟩
  else if limit < depth + value.nestingDepth then .error ⟨path, .tooDeep⟩
  else .ok ()

/-- The entries of a map without declarations, in order. -/
def checkEntries (node : Node) (limit depth : Nat) (path : Path) :
    List (String × Value) → Verdict Unit
  | [] => .ok ()
  | (key, value) :: rest =>
      match node.checkMember .object limit depth value (path ++ [.field key]) with
      | .error error => .error error
      | .ok _ => node.checkEntries limit depth path rest

/-- The elements of a list without declarations, in order, from an index on. -/
def checkElements (node : Node) (limit depth : Nat) (path : Path) (index : Nat) :
    List Value → Verdict Unit
  | [] => .ok ()
  | value :: rest =>
      match node.checkMember .array limit depth value (path ++ [.index index]) with
      | .error error => .error error
      | .ok _ => node.checkElements limit depth path (index + 1) rest

end Node

namespace Schema

/-! ## Declared fields -/

/-- A required field is missing when its key is absent or its value would be left out. -/
def fieldMissing (schema : Schema) (entries : List (String × Value)) (key : String)
    (id : NodeId) : Bool :=
  let node := schema.node id
  node.isRequired &&
    match entries.lookup key with
    | none => true
    | some value => node.skips value

/-- The key of the first missing required field, in the order of declaration. -/
def missingKey? (schema : Schema) (fields : List (String × NodeId))
    (entries : List (String × Value)) : Option String :=
  (fields.find? fun field => schema.fieldMissing entries field.1 field.2).map Prod.fst

/-- The entries of a map in their order: an undeclared key is refused or left out, a value that its
node skips is left out, and every other value is visited. -/
def visitEntries (schema : Schema) (visit : Visitor) (fields : List (String × NodeId))
    (path : Path) : List (String × Value) → Verdict (List (String × Value))
  | [] => .ok []
  | (key, value) :: rest =>
      match fields.lookup key with
      | none =>
          if schema.strict then .error ⟨path ++ [.field key], .keyNotAllowed key⟩
          else schema.visitEntries visit fields path rest
      | some id =>
          if (schema.node id).skips value then schema.visitEntries visit fields path rest
          else
            match visit id value (path ++ [.field key]) with
            | .error error => .error error
            | .ok result =>
                (schema.visitEntries visit fields path rest).map ((key, result) :: ·)

/-- A map against declared fields. -/
def visitMap (schema : Schema) (visit : Visitor) (fields : List (String × NodeId))
    (entries : List (String × Value)) (path : Path) : Verdict Value :=
  match schema.missingKey? fields entries with
  | some key => .error ⟨path, .requiredKeysMissing key⟩
  | none => (schema.visitEntries visit fields path entries).map .map

/-! ## Declared items -/

/-- Whether a required item has no value at its position, or one that would be left out. -/
def itemMissing (schema : Schema) : List NodeId → List Value → Bool
  | [], _ => false
  | id :: ids, [] => (schema.node id).isRequired || schema.itemMissing ids []
  | id :: ids, value :: rest =>
      ((schema.node id).isRequired && (schema.node id).skips value) || schema.itemMissing ids rest

/-- The elements of a list against items by position, from an index on: an element behind the items
is refused or left out, one that its node skips leaves nil in its place, and every other element is
visited. -/
def visitItems (schema : Schema) (visit : Visitor) (path : Path) (index : Nat) :
    List NodeId → List Value → Verdict (List Value)
  | _, [] => .ok []
  | [], _ :: rest =>
      if schema.strict then .error ⟨path ++ [.index index], .indexNotAllowed index⟩
      else schema.visitItems visit path (index + 1) [] rest
  | id :: ids, value :: rest =>
      if (schema.node id).skips value then
        (schema.visitItems visit path (index + 1) ids rest).map (.nil :: ·)
      else
        match visit id value (path ++ [.index index]) with
        | .error error => .error error
        | .ok result => (schema.visitItems visit path (index + 1) ids rest).map (result :: ·)

/-- The elements of a list against one node for all, from an index on: an element that the node
skips is left out, and every other element is visited. -/
def visitElements (schema : Schema) (visit : Visitor) (template : NodeId) (path : Path)
    (index : Nat) : List Value → Verdict (List Value)
  | [] => .ok []
  | value :: rest =>
      if (schema.node template).skips value then
        schema.visitElements visit template path (index + 1) rest
      else
        match visit template value (path ++ [.index index]) with
        | .error error => .error error
        | .ok result =>
            (schema.visitElements visit template path (index + 1) rest).map (result :: ·)

/-- A list against declared items. -/
def visitSeq (schema : Schema) (visit : Visitor) (items : List NodeId) (elements : List Value)
    (path : Path) : Verdict Value :=
  if schema.itemMissing items elements then .error ⟨path, .requiredItemsMissing⟩
  else (schema.visitItems visit path 0 items elements).map .seq

/-! ## The walk -/

/-- The parts of a value by what is declared beneath a node at some depth. -/
def visitParts (schema : Schema) (limit depth : Nat) (visit : Visitor) (node : Node)
    (value : Value) (path : Path) : Verdict Value :=
  match node.children, value with
  | .keyed [], .map entries =>
      (node.checkEntries limit (depth + 1) path entries).map fun _ => .map entries
  | .keyed fields, .map entries => schema.visitMap visit fields entries path
  | .positional [], .seq elements =>
      (node.checkElements limit (depth + 1) path 0 elements).map fun _ => .seq elements
  | .positional items, .seq elements => schema.visitSeq visit items elements path
  | .homogeneous template, .seq elements =>
      (schema.visitElements visit template path 0 elements).map .seq
  | .scalar, leaf => if leaf.isScalar then .ok leaf else .error ⟨path, .nonScalar⟩
  | _, other => .error ⟨path, .typeMismatch (TypeName.classify other) node.type⟩

/-- A node on a value at a path and depth: the limit on depth, the type of the value, nil, type
match or conversion, parts, hooks. -/
def visit (schema : Schema) (limit depth : Nat) (id : NodeId) (input : Value) (path : Path) :
    Verdict Value :=
  if limit < depth then .error ⟨path, .tooDeep⟩
  else
    let node := schema.node id
    match TypeName.classify input with
    | none => .error ⟨path, .typeMismatch none node.type⟩
    | some observed =>
        if input.isNil then
          if node.acceptsNil then .ok .nil else .error ⟨path, .nil⟩
        else
          match node.conform observed input with
          | .error failure => .error ⟨path, failure⟩
          | .ok value =>
              let visitChild := schema.visit limit (depth + 1)
              match schema.visitParts limit depth visitChild node value path with
              | .error error => .error error
              | .ok output => node.applyHooks path output
termination_by limit + 1 - depth

/-- A whole input under a limit on depth. Nil in place of everything is missing, unless the root
takes it. -/
def reduce (schema : Schema) (limit : Nat) (input : Value) : Verdict Value :=
  let root := schema.node Schema.root
  if input.isNil && root.isRequired && !root.options.allowNil then .error ⟨[], .missing⟩
  else schema.visit limit 0 Schema.root input []

end Schema

end ParamSchema
