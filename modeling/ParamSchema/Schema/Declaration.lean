import ParamSchema.Schema.Basic

/-!
Contract: building schemas from nested declarations.

Owns:
- declarations of fields, items and templates, with or without declarations beneath them;
- attaching a node to its parent, and the errors of doing so;
- running declarations in order up to the first error, with what happened on the way.

Does not own: declarations that come from JSON documents (`Document.Declare`).

A declaration that fails leaves the nodes that were attached before the failure, so a caller that
goes on after an error goes on with them.
-/

namespace ParamSchema

inductive DefinitionError where
  | unknownType (name : String)
  | duplicateKey (key : String)
  | duplicateIndex (index : Nat)
  | nonContiguousIndex (index next : Nat)
  | notAnObject (type : TypeName)
  | notAnArray (type : TypeName)
  /-- The array already has one node for all its elements. -/
  | finalized
  /-- A scalar has nothing beneath it. -/
  | blockNotAccepted (type : TypeName)
  | invalidDefinition (reason : String)

def DefinitionError.message : DefinitionError → String
  | unknownType name => "type " ++ name ++ " is not a registered type"
  | duplicateKey key => "key " ++ key ++ " has already been defined"
  | duplicateIndex index => "index " ++ Nat.repr index ++ " has already been defined"
  | nonContiguousIndex index next =>
      "index " ++ Nat.repr index ++ " skips ahead of next index " ++ Nat.repr next
  | notAnObject type => "cannot define field for non-object type (got " ++ type.name ++ ")"
  | notAnArray type => "cannot define item for non-array type (got " ++ type.name ++ ")"
  | finalized => "array has been finalized with a single item template"
  | blockNotAccepted type => "type " ++ type.name ++ " does not accept nested declarations"
  | invalidDefinition reason => "invalid definition: " ++ reason

/-! ## Attaching -/

/-- Where a node goes beneath its parent. -/
inductive Slot where
  /-- Under a key of an object. -/
  | field (key : String)
  /-- At the next position of an array, which may be named. -/
  | item (index : Option Nat)
  /-- In place of all elements of an array. -/
  | template

/-- The step to a new node in a slot, and the children of its parent with it. -/
def Node.place (node : Node) (slot : Slot) (child : NodeId) :
    Except DefinitionError (Segment × Children) :=
  match slot, node.children with
  | .field key, .keyed fields =>
      if (fields.lookup key).isSome then .error (.duplicateKey key)
      else .ok (.field key, .keyed (fields ++ [(key, child)]))
  | .field _, _ => .error (.notAnObject node.type)
  | .item named, .positional items =>
      let next := items.length
      let index := named.getD next
      if index < next then .error (.duplicateIndex index)
      else if next < index then .error (.nonContiguousIndex index next)
      else .ok (.index index, .positional (items ++ [child]))
  | .template, .positional [] => .ok (.index 0, .homogeneous child)
  | .template, .positional _ => .error (.duplicateIndex 0)
  | .item _, .homogeneous _ | .template, .homogeneous _ => .error .finalized
  | .item _, _ | .template, _ => .error (.notAnArray node.type)

/-- The arena with one more node, listed by its parent, and the number of that node. -/
def Arena.attach (arena : Arena) (parent : NodeId) (slot : Slot) (type : TypeName)
    (options : Options) : Except DefinitionError (Arena × NodeId) :=
  match (arena.node parent).place slot arena.size with
  | .error error => .error error
  | .ok (key, children) =>
      let linked := arena.modify parent fun node => { node with children := children }
      .ok (linked.push (.fresh (some key) (some parent) type options), arena.size)

/-! ## Declarations -/

/-- The word that a declaration is made with. -/
inductive Keyword where
  | field
  | fieldWith
  | object
  | array
  | item
  | itemAt
  | itemWith
  | items
  | itemsWith

/-- What a declaration says about its own node. -/
structure Head where
  keyword : Keyword
  slot : Slot
  type : TypeName
  options : Options

/-- A declaration beneath some node. -/
inductive Declaration where
  /-- A node beneath which nothing is declared. -/
  | leaf (head : Head)
  /-- A node with declarations beneath it. -/
  | block (head : Head) (body : List Declaration)
  /-- Nothing can be declared. -/
  | reject (error : DefinitionError)
  /-- A declaration whose error does not end the list it stands in. -/
  | attempt (declaration : Declaration)

namespace Declaration

instance : Inhabited Declaration := ⟨.reject .finalized⟩

def field (key : String) (type : TypeName) (options : Options) : Declaration :=
  .leaf ⟨.field, .field key, type, options⟩

def fieldWith (key : String) (type : TypeName) (options : Options) (body : List Declaration) :
    Declaration :=
  .block ⟨.fieldWith, .field key, type, options⟩ body

def object (key : String) (options : Options) (body : List Declaration) : Declaration :=
  .block ⟨.object, .field key, .object, options⟩ body

def array (key : String) (options : Options) (body : List Declaration) : Declaration :=
  .block ⟨.array, .field key, .array, options⟩ body

def item (type : TypeName) (options : Options) : Declaration :=
  .leaf ⟨.item, .item none, type, options⟩

/-- The item of an array at a position, which has to be the next. -/
def itemAt (index : Nat) (type : TypeName) (options : Options) : Declaration :=
  .leaf ⟨.itemAt, .item (some index), type, options⟩

def itemWith (type : TypeName) (options : Options) (body : List Declaration) : Declaration :=
  .block ⟨.itemWith, .item none, type, options⟩ body

/-- One node for all elements of an array. -/
def items (type : TypeName) (options : Options) : Declaration :=
  .leaf ⟨.items, .template, type, options⟩

/-- One node for all elements of an array, with declarations beneath it. -/
def itemsWith (type : TypeName) (options : Options) (body : List Declaration) : Declaration :=
  .block ⟨.itemsWith, .template, type, options⟩ body

end Declaration

/-! ## Running declarations -/

inductive BuildStep where
  /-- The declarations beneath a node begin. -/
  | entered (id : NodeId)
  /-- A declaration has made a node, with all that stands beneath it. -/
  | made (keyword : Keyword) (id : NodeId)
  | failed (keyword : Keyword) (error : DefinitionError)

/-- What running declarations leads to: the arena reached, also after an error, and the way
there. -/
structure Build where
  arena : Arena
  steps : List BuildStep
  error : Option DefinitionError

namespace Build

/-- A declaration that fails without changing the arena. -/
def refused (arena : Arena) (head : Head) (error : DefinitionError) : Build :=
  ⟨arena, [.failed head.keyword error], some error⟩

/-- A declaration around the declarations beneath its node, which it succeeds or fails with. -/
def around (head : Head) (id : NodeId) (inner : Build) : Build :=
  let outcome := match inner.error with
    | none => .made head.keyword id
    | some error => .failed head.keyword error
  { inner with steps := .entered id :: inner.steps ++ [outcome] }

/-- What comes after a run, unless the run ended in an error. -/
def andThen (first : Build) (next : Arena → Build) : Build :=
  match first.error with
  | some _ => first
  | none =>
      let second := next first.arena
      { second with steps := first.steps ++ second.steps }

end Build

mutual

/-- Runs one declaration beneath a node. A block on a scalar is refused before its node is made. -/
def Declaration.run (parent : NodeId) (arena : Arena) : Declaration → Build
  | .leaf head =>
      match arena.attach parent head.slot head.type head.options with
      | .error error => .refused arena head error
      | .ok (grown, id) => ⟨grown, [.made head.keyword id], none⟩
  | .block head body =>
      if head.type.isScalar then .refused arena head (.blockNotAccepted head.type)
      else
        match arena.attach parent head.slot head.type head.options with
        | .error error => .refused arena head error
        | .ok (grown, id) => .around head id (runAll id grown body)
  | .reject error => ⟨arena, [], some error⟩
  | .attempt declaration => { declaration.run parent arena with error := none }

/-- Runs declarations beneath a node in order, up to the first error. -/
def runAll (parent : NodeId) (arena : Arena) : List Declaration → Build
  | [] => ⟨arena, [], none⟩
  | declaration :: rest =>
      (declaration.run parent arena).andThen fun grown => runAll parent grown rest

end

/-! ## Schemas -/

/-- An arena that has nothing but a root. -/
def Arena.ofRoot (type : TypeName) (options : Options) : Arena :=
  #[.fresh none none type options]

namespace Schema

/-- A schema of a root alone. -/
def leaf (type : TypeName) (options : Options) (strict : Bool) : Schema :=
  ⟨.ofRoot type options, strict⟩

/-- Runs declarations beneath a root. A scalar root is refused before any of them. -/
def declare (type : TypeName) (options : Options) (body : List Declaration) : Build :=
  let arena := Arena.ofRoot type options
  if type.isScalar then ⟨arena, [], some (.blockNotAccepted type)⟩
  else
    let inner := runAll root arena body
    { inner with steps := .entered root :: inner.steps }

end Schema

/-- The schema that a run has built, if it did not end in an error. -/
def Build.schema (build : Build) (strict : Bool) : Except DefinitionError Schema :=
  match build.error with
  | some error => .error error
  | none => .ok ⟨build.arena, strict⟩

namespace Schema

/-- The schema of a root with declarations beneath it. -/
def define (type : TypeName) (options : Options) (strict : Bool) (body : List Declaration) :
    Except DefinitionError Schema :=
  (declare type options body).schema strict

def build (strict : Bool) (body : List Declaration) : Except DefinitionError Schema :=
  define .object {} strict body

end Schema

end ParamSchema
