import ParamSchema.Validation.Walk

/-!
Contract: the walk over an input with one path for all of it.

Owns:
- computations over a shared path: steps down and back up, and failing where the path stands;
- the walks over members and the visit of a node as such computations.

Does not own: the walk that hands each part its own path (`Validation.Walk`), with which it agrees.

A failure ends a computation at once, so the steps back up that come after it are not taken and the
path stays where the failure was found.
-/

namespace ParamSchema

/-- A computation that moves a shared path, and leaves it somewhere also when it fails. -/
abbrev Walker := ExceptT ValidationError (StateM Path)

/-- What visits a child on a value, from where the shared path stands. -/
abbrev SharedVisitor := NodeId → Value → Walker Value

namespace Walker

variable {α : Type}

/-- The verdict of a computation that starts with a path, and the path that it leaves. -/
def start (walker : Walker α) (path : Path) : Verdict α × Path :=
  StateT.run (ExceptT.run walker) path

def down (segment : Segment) : Walker Unit :=
  modify fun path => path ++ [segment]

def up : Walker Unit :=
  modify List.dropLast

/-- What only looks at the path. -/
def reading (step : Path → Verdict α) : Walker α := do
  match step (← get) with
  | .ok value => return value
  | .error error => throw error

/-- Fails where the path stands. -/
def failHere (failure : Failure) : Walker α :=
  reading fun path => .error ⟨path, failure⟩

/-- A step down, what is done there, and the step back up. -/
def beneath (segment : Segment) (walker : Walker α) : Walker α := do
  down segment
  let result ← walker
  up
  return result

end Walker

open Walker

namespace Node

/-! ## Members without declarations -/

def walkEntries (node : Node) (limit depth : Nat) : List (String × Value) → Walker Unit
  | [] => return ()
  | (key, value) :: rest => do
      beneath (.field key) (reading (node.checkMember .object limit depth value))
      node.walkEntries limit depth rest

def walkElements (node : Node) (limit depth : Nat) (index : Nat) : List Value → Walker Unit
  | [] => return ()
  | value :: rest => do
      beneath (.index index) (reading (node.checkMember .array limit depth value))
      node.walkElements limit depth (index + 1) rest

end Node

namespace Schema

/-! ## Declared members -/

def walkEntries (schema : Schema) (visit : SharedVisitor) (fields : List (String × NodeId)) :
    List (String × Value) → Walker (List (String × Value))
  | [] => return []
  | (key, value) :: rest =>
      match fields.lookup key with
      | none =>
          if schema.strict then do
            down (.field key)
            failHere (.keyNotAllowed key)
          else schema.walkEntries visit fields rest
      | some id =>
          if (schema.node id).skips value then schema.walkEntries visit fields rest
          else do
            let result ← beneath (.field key) (visit id value)
            let results ← schema.walkEntries visit fields rest
            return (key, result) :: results

def walkMap (schema : Schema) (visit : SharedVisitor) (fields : List (String × NodeId))
    (entries : List (String × Value)) : Walker Value :=
  match schema.missingKey? fields entries with
  | some key => failHere (.requiredKeysMissing key)
  | none => do return .map (← schema.walkEntries visit fields entries)

def walkItems (schema : Schema) (visit : SharedVisitor) (index : Nat) :
    List NodeId → List Value → Walker (List Value)
  | _, [] => return []
  | [], _ :: rest =>
      if schema.strict then do
        down (.index index)
        failHere (.indexNotAllowed index)
      else schema.walkItems visit (index + 1) [] rest
  | id :: ids, value :: rest =>
      if (schema.node id).skips value then do
        return .nil :: (← schema.walkItems visit (index + 1) ids rest)
      else do
        let result ← beneath (.index index) (visit id value)
        let results ← schema.walkItems visit (index + 1) ids rest
        return result :: results

def walkElements (schema : Schema) (visit : SharedVisitor) (template : NodeId) (index : Nat) :
    List Value → Walker (List Value)
  | [] => return []
  | value :: rest =>
      if (schema.node template).skips value then
        schema.walkElements visit template (index + 1) rest
      else do
        let result ← beneath (.index index) (visit template value)
        let results ← schema.walkElements visit template (index + 1) rest
        return result :: results

def walkSeq (schema : Schema) (visit : SharedVisitor) (items : List NodeId)
    (elements : List Value) : Walker Value :=
  if schema.itemMissing items elements then failHere .requiredItemsMissing
  else do return .seq (← schema.walkItems visit 0 items elements)

/-! ## Nodes -/

def walkParts (schema : Schema) (limit depth : Nat) (visit : SharedVisitor) (node : Node)
    (value : Value) : Walker Value :=
  match node.children, value with
  | .keyed [], .map entries => do
      node.walkEntries limit (depth + 1) entries
      return .map entries
  | .keyed fields, .map entries => schema.walkMap visit fields entries
  | .positional [], .seq elements => do
      node.walkElements limit (depth + 1) 0 elements
      return .seq elements
  | .positional items, .seq elements => schema.walkSeq visit items elements
  | .homogeneous template, .seq elements => do
      return .seq (← schema.walkElements visit template 0 elements)
  | .scalar, leaf => if leaf.isScalar then return leaf else failHere .nonScalar
  | _, other => failHere (.typeMismatch (TypeName.classify other) node.type)

/-- A node on a value at a depth, from where the shared path stands. -/
def walk (schema : Schema) (limit depth : Nat) (id : NodeId) (input : Value) : Walker Value :=
  if limit < depth then failHere .tooDeep
  else
    let node := schema.node id
    match TypeName.classify input with
    | none => failHere (.typeMismatch none node.type)
    | some observed =>
        if input.isNil then
          if node.acceptsNil then return .nil else failHere .nil
        else
          match node.conform observed input with
          | .error failure => failHere failure
          | .ok value => do
              let output ← schema.walkParts limit depth (schema.walk limit (depth + 1)) node value
              reading fun path => node.applyHooks path output
termination_by limit + 1 - depth

end Schema

end ParamSchema
