import ParamSchema.Path
import ParamSchema.TypeName.Basic

/-!
Contract: schemas as arenas of nodes.

Owns:
- the options of a node, among them its hooks;
- nodes, their children, and schemas that address nodes by number;
- resolving a child by key or index, and the path of a node.

Does not own: how schemas come about (`Schema.Declaration`, `Document.Declare`) and what they
accept (`Validation.Walk`).
-/

namespace ParamSchema

/-! ## Options -/

/-- A condition on values beyond their type. -/
inductive Check where
  /-- Rejects without a message of its own. -/
  | predicate (accepts : Value → Bool)
  /-- Rejects with a message. -/
  | verify (verdict : Value → Except String Unit)

/-- The verdict of a check, with the message of a rejection. -/
def Check.run : Check → Value → Except String Unit
  | .predicate accepts, value => if accepts value then .ok () else .error "is invalid"
  | .verify verdict, value => verdict value

/-- What a node asks for beside its type. By default a value is required, must not be nil, may be
blank, is not converted, holds only scalars where nothing is declared, and is not constrained. -/
structure Options where
  optional : Bool := false
  allowNil : Bool := false
  allowBlank : Bool := true
  coerce : Bool := false
  allowNonScalars : Bool := false
  /-- The values to choose from; an empty list constrains nothing. -/
  inclusion : List Value := []
  /-- Applied to a value that has passed everything else. -/
  transform : Option (Value → Value) := none
  check : Option Check := none

/-! ## Nodes -/

/-- The number of a node within its schema. -/
abbrev NodeId := Nat

/-- What is declared beneath a node. -/
inductive Children where
  /-- Scalar types have nothing beneath them. -/
  | scalar
  /-- The fields of an object, in the order of declaration. -/
  | keyed (fields : List (String × NodeId))
  /-- The items of an array, by position. -/
  | positional (items : List NodeId)
  /-- One node for all elements of an array. -/
  | homogeneous (template : NodeId)

namespace Children

/-- What a new node of a type starts with. -/
def ofType : TypeName → Children
  | .object => .keyed []
  | .array => .positional []
  | _ => .scalar

/-- An object or array beneath which nothing is declared. -/
def isUndeclared : Children → Bool
  | scalar => false
  | keyed fields => fields.isEmpty
  | positional items => items.isEmpty
  | homogeneous _ => false

/-- The field declared under a key. -/
def child? : Children → String → Option NodeId
  | keyed fields, key => fields.lookup key
  | _, _ => none

/-- The node that applies to an index. -/
def item? : Children → Nat → Option NodeId
  | positional items, index => items[index]?
  | homogeneous template, _ => some template
  | _, _ => none

end Children

/-- A declared parameter. -/
structure Node where
  /-- The step from the parent; the root has none. -/
  key : Option Segment
  parent : Option NodeId
  type : TypeName
  options : Options
  children : Children

namespace Node

/-- A node beneath which nothing is declared yet. -/
def fresh (key : Option Segment) (parent : Option NodeId) (type : TypeName) (options : Options) :
    Node where
  key := key
  parent := parent
  type := type
  options := options
  children := .ofType type

/-- What stands at a number that no node has. -/
def absent : Node :=
  fresh none none .nil {}

/-- A node is required unless it is optional. -/
def isRequired (node : Node) : Bool :=
  !node.options.optional

/-- A parent leaves out a value that its node does not take: a blank one where blanks are not
allowed, and nil where the value is optional. -/
def skips (node : Node) (value : Value) : Bool :=
  (!node.options.allowBlank && value.isBlank) || (node.options.optional && value.isNil)

end Node

/-! ## Schemas -/

/-- The nodes of a schema by number, the root first. -/
abbrev Arena := Array Node

def Arena.node (arena : Arena) (id : NodeId) : Node :=
  arena[id]?.getD .absent

/-- A tree of declared parameters. A strict schema rejects what it does not declare. -/
structure Schema where
  nodes : Arena
  strict : Bool

namespace Schema

def root : NodeId := 0

def node (schema : Schema) (id : NodeId) : Node :=
  schema.nodes.node id

def child? (schema : Schema) (id : NodeId) (key : String) : Option NodeId :=
  (schema.node id).children.child? key

def item? (schema : Schema) (id : NodeId) (index : Nat) : Option NodeId :=
  (schema.node id).children.item? index

/-- The node that a step leads to. -/
def step? (schema : Schema) (id : NodeId) : Segment → Option NodeId
  | .field key => schema.child? id key
  | .index position => schema.item? id position

/-- The node that a path leads to from a given one. -/
def resolve? (schema : Schema) (id : NodeId) : Path → Option NodeId
  | [] => some id
  | segment :: rest => (schema.step? id segment).bind fun next => schema.resolve? next rest

/-- The steps from the root to a node. Parents have smaller numbers than their children; a link
that does not lead back ends the climb. -/
def pathOf (schema : Schema) (id : NodeId) : Path :=
  let node := schema.node id
  match node.parent with
  | none => node.key.toList
  | some parent => if parent < id then schema.pathOf parent ++ node.key.toList else node.key.toList
termination_by id

end Schema

end ParamSchema
