import Mathlib.Data.List.Forall2
import ParamSchema.Proofs.Schema.Linking

/-!
Contract: documents as trees of definitions.

Owns:
- the definitions beneath a definition, and the induction over them;
- preorder, and the numbers that definitions have in it;
- valid definitions, the nodes that definitions describe, and the schemas that mirror documents.

Does not own: which schema a document has (`Proofs.Document.Mirror`).
-/

namespace ParamSchema

namespace ParamDefinition

/-! ## Trees -/

/-- The definitions one level below, in document order. -/
def beneath (definition : ParamDefinition) : List ParamDefinition :=
  definition.fields.getD [] ++ definition.items.getD [] ++ definition.each.toList

theorem sizeOf_lt_of_mem_getD {definitions : Option (List ParamDefinition)}
    {child : ParamDefinition} (member : child ∈ definitions.getD []) :
    sizeOf child < sizeOf definitions := by
  cases definitions with
  | none => cases member
  | some definitions =>
      rw [Option.getD_some] at member
      have smaller := List.sizeOf_lt_of_mem member
      simp only [Option.some.sizeOf_spec]
      omega

theorem sizeOf_lt_of_mem_beneath {definition child : ParamDefinition}
    (member : child ∈ definition.beneath) : sizeOf child < sizeOf definition := by
  cases definition with
  | mk key typeName optional allowNil allowBlank coerce allowNonScalars inclusion fields items
      each =>
      simp only [beneath, List.mem_append, Option.mem_toList] at member
      simp only [ParamDefinition.mk.sizeOf_spec]
      rcases member with (ofFields | ofItems) | ofEach
      · have smaller := sizeOf_lt_of_mem_getD ofFields
        omega
      · have smaller := sizeOf_lt_of_mem_getD ofItems
        omega
      · cases ofEach
        simp only [Option.some.sizeOf_spec]
        omega

/-- What holds of a definition once it holds of those beneath it holds of every definition. -/
theorem beneath_induction {Holds : ParamDefinition → Prop}
    (step : ∀ definition, (∀ child ∈ definition.beneath, Holds child) → Holds definition)
    (definition : ParamDefinition) : Holds definition :=
  step definition fun child _ => beneath_induction step child
termination_by definition
decreasing_by exact sizeOf_lt_of_mem_beneath ‹_›

/-- A definition and all below it, depth first, in document order. -/
def preorder (definition : ParamDefinition) : List ParamDefinition :=
  definition :: definition.beneath.attach.flatMap fun child => child.1.preorder
termination_by definition
decreasing_by exact sizeOf_lt_of_mem_beneath child.2

theorem preorder_eq (definition : ParamDefinition) :
    definition.preorder = definition :: definition.beneath.flatMap preorder := by
  rw [preorder]
  simp

/-- The numbers of definitions that stand side by side, each followed by all below it. -/
def numbers (next : NodeId) : List ParamDefinition → List NodeId
  | [] => []
  | definition :: rest => next :: numbers (next + definition.preorder.length) rest

theorem drop_flatMap_preorder {definitions : List ParamDefinition} {part : ParamDefinition}
    {place : Nat}
    (each : ∀ definition ∈ definitions, ∀ {id : Nat}, definition.preorder[id]? = some part →
      ∃ rest, definition.preorder.drop id = part.preorder ++ rest)
    (isPart : (definitions.flatMap preorder)[place]? = some part) :
    ∃ rest, (definitions.flatMap preorder).drop place = part.preorder ++ rest := by
  -- The part is in the tree of the first definition, or behind it.
  induction definitions generalizing place with
  | nil => cases isPart
  | cons definition others inductionHypothesis =>
      rw [List.flatMap_cons] at isPart ⊢
      by_cases within : place < definition.preorder.length
      · rw [List.getElem?_append_left within] at isPart
        obtain ⟨rest, suffix⟩ := each definition List.mem_cons_self isPart
        exact ⟨rest ++ others.flatMap preorder, by
          rw [List.drop_append_of_le_length (Nat.le_of_lt within), suffix, List.append_assoc]⟩
      · have behind := Nat.le_of_not_lt within
        rw [List.getElem?_append_right behind] at isPart
        obtain ⟨rest, suffix⟩ := inductionHypothesis
          (fun other member => each other (List.mem_cons_of_mem definition member)) isPart
        exact ⟨rest, by rw [List.drop_append, List.drop_eq_nil_of_le behind, suffix]; rfl⟩

theorem length_numbers (next : NodeId) (definitions : List ParamDefinition) :
    (numbers next definitions).length = definitions.length := by
  induction definitions generalizing next with
  | nil => rfl
  | cons definition rest inductionHypothesis =>
      rw [numbers, List.length_cons, List.length_cons, inductionHypothesis]

/-- In preorder a definition is followed by all below it. -/
theorem drop_preorder {definition part : ParamDefinition} {id : Nat}
    (isPart : definition.preorder[id]? = some part) :
    ∃ rest, definition.preorder.drop id = part.preorder ++ rest := by
  induction definition using beneath_induction generalizing id with
  | step definition inductionHypothesis =>
      rw [preorder_eq] at isPart ⊢
      cases id with
      | zero =>
          cases isPart
          exact ⟨[], by rw [preorder_eq]; simp⟩
      | succ id =>
          rw [List.getElem?_cons_succ] at isPart
          rw [List.drop_succ_cons]
          exact drop_flatMap_preorder inductionHypothesis isPart

/-- Numbers lead to the definitions that they are given to. -/
theorem forall₂_numbers {whole definitions rest : List ParamDefinition} {next : NodeId}
    (behind : whole.drop next = definitions.flatMap preorder ++ rest) :
    List.Forall₂ (fun number definition => whole[number]? = some definition)
      (numbers next definitions) definitions := by
  induction definitions generalizing next with
  | nil => exact .nil
  | cons definition others inductionHypothesis =>
      rw [List.flatMap_cons, List.append_assoc] at behind
      refine .cons ?_ (inductionHypothesis ?_)
      · rw [← Nat.add_zero next, ← List.getElem?_drop, behind, preorder_eq]
        rfl
      · rw [← List.drop_drop, behind, List.drop_left]

/-! ## Valid definitions -/

/-- What makes a definition one that a node can be declared from. -/
structure Valid (definition : ParamDefinition) : Prop where
  registered : ∃ type, TypeName.lookup definition.typeName = some type
  composite : definition.hasChildren = true →
    TypeName.lookup definition.typeName = some .object ∨
      TypeName.lookup definition.typeName = some .array
  unambiguous : ¬(definition.items.isSome = true ∧ definition.each.isSome = true)
  ofObject : definition.fields.getD [] ≠ [] → TypeName.lookup definition.typeName = some .object
  keyed : ∀ field ∈ definition.fields.getD [], field.key ≠ none
  distinct : ((definition.fields.getD []).filterMap key).Nodup
  ofArray : definition.items.getD [] ≠ [] ∨ definition.each ≠ none →
    TypeName.lookup definition.typeName = some .array

namespace Valid

variable {definition : ParamDefinition} (valid : definition.Valid)

include valid

theorem of_object (registered : TypeName.lookup definition.typeName = some .object) :
    definition.items.getD [] = [] ∧ definition.each = none := by
  have notArray : TypeName.lookup definition.typeName ≠ some .array := by simp [registered]
  have noElements := mt valid.ofArray notArray
  rwa [not_or, not_ne_iff, not_ne_iff] at noElements

theorem of_array (registered : TypeName.lookup definition.typeName = some .array) :
    definition.fields.getD [] = [] := by
  have notObject : TypeName.lookup definition.typeName ≠ some .object := by simp [registered]
  exact not_ne_iff.mp (mt valid.ofObject notObject)

theorem items_of_each {template : ParamDefinition} (hasTemplate : definition.each = some template) :
    definition.items = none := by
  cases hasItems : definition.items with
  | none => rfl
  | some items => exact absurd ⟨by simp [hasItems], by simp [hasTemplate]⟩ valid.unambiguous

theorem isLeaf {type : TypeName} (registered : TypeName.lookup definition.typeName = some type)
    (scalar : type.isScalar = true) : definition.hasChildren = false := by
  by_contra hasChildren
  have composite := valid.composite (by simpa using hasChildren)
  rw [registered] at composite
  rcases composite with isObject | isArray
  · cases isObject
    cases scalar
  · cases isArray
    cases scalar

end Valid

/-- All definitions of a tree are valid. -/
def TreeValid (definition : ParamDefinition) : Prop :=
  ∀ part ∈ definition.preorder, part.Valid

theorem treeValid_iff {definition : ParamDefinition} : definition.TreeValid ↔
    definition.Valid ∧ ∀ child ∈ definition.beneath, child.TreeValid := by
  unfold TreeValid
  rw [preorder_eq]
  simp only [List.forall_mem_cons, List.mem_flatMap, forall_exists_index, and_imp]
  exact and_congr_right fun _ => ⟨fun valid child isChild part isPart =>
    valid part child isChild isPart, fun valid part child isChild isPart =>
    valid child isChild part isPart⟩

section Invalid

variable {definition : ParamDefinition}

theorem not_treeValid_of_unknown (unknown : TypeName.lookup definition.typeName = none) :
    ¬definition.TreeValid := by
  intro valid
  obtain ⟨type, registered⟩ := (treeValid_iff.mp valid).1.registered
  rw [unknown] at registered
  cases registered

theorem not_treeValid_of_scalar {type : TypeName}
    (registered : TypeName.lookup definition.typeName = some type)
    (hasChildren : definition.hasChildren = true) (scalar : type.isScalar = true) :
    ¬definition.TreeValid := by
  intro valid
  have isLeaf := (treeValid_iff.mp valid).1.isLeaf registered scalar
  rw [hasChildren] at isLeaf
  cases isLeaf

end Invalid

/-! ## Described nodes -/

/-- The children of a node of a type, where the definitions beneath it have the numbers from the
next one on. -/
def childrenAt (definition : ParamDefinition) (type : TypeName) (next : NodeId) : Children :=
  match type with
  | .object =>
      let fields := definition.fields.getD []
      .keyed ((fields.filterMap key).zip (numbers next fields))
  | .array =>
      match definition.each with
      | some _ => .homogeneous next
      | none => .positional (numbers next (definition.items.getD []))
  | _ => .scalar

/-- A definition says everything about the node of a number but its place. -/
structure Describes (definition : ParamDefinition) (id : NodeId) (node : Node) : Prop where
  type : TypeName.lookup definition.typeName = some node.type
  optional : node.options.optional = definition.optional
  allowNil : node.options.allowNil = definition.allowNil
  allowBlank : node.options.allowBlank = definition.allowBlank
  coerce : node.options.coerce = definition.coerce
  allowNonScalars : node.options.allowNonScalars = definition.allowNonScalars
  inclusion : node.options.inclusion = definition.inclusion.map Value.ofJson
  noTransform : node.options.transform = none
  noCheck : node.options.check = none
  children : node.children = definition.childrenAt node.type (id + 1)

/-! ### Definitions without children -/

section Leaves

variable {definition : ParamDefinition} {type : TypeName} (isLeaf : definition.hasChildren = false)

include isLeaf

theorem eq_none_of_leaf :
    definition.fields = none ∧ definition.items = none ∧ definition.each = none := by
  simpa [hasChildren, and_assoc] using isLeaf

theorem beneath_of_leaf : definition.beneath = [] := by
  obtain ⟨noFields, noItems, noTemplate⟩ := eq_none_of_leaf isLeaf
  simp [beneath, noFields, noItems, noTemplate]

theorem childrenAt_of_leaf (type : TypeName) (next : NodeId) :
    definition.childrenAt type next = .ofType type := by
  obtain ⟨noFields, noItems, noTemplate⟩ := eq_none_of_leaf isLeaf
  cases type <;> simp [childrenAt, noFields, noItems, noTemplate, numbers, Children.ofType]

theorem treeValid_of_leaf (registered : TypeName.lookup definition.typeName = some type) :
    definition.TreeValid := by
  obtain ⟨noFields, noItems, noTemplate⟩ := eq_none_of_leaf isLeaf
  rw [treeValid_iff, beneath_of_leaf isLeaf]
  refine ⟨?_, by simp⟩
  constructor <;> simp [registered, isLeaf, noFields, noItems, noTemplate]

end Leaves

/-! ### Links -/

/-- The children of a node are numbered like the definitions beneath its own. -/
theorem links_childrenAt {definition : ParamDefinition} {type : TypeName}
    (valid : definition.Valid) (registered : TypeName.lookup definition.typeName = some type)
    (next : NodeId) :
    (definition.childrenAt type next).links.map Prod.snd = numbers next definition.beneath := by
  cases type with
  | object =>
      obtain ⟨noItems, noTemplate⟩ := valid.of_object registered
      have allKeyed : ((definition.fields.getD []).filterMap key).length =
          (definition.fields.getD []).length :=
        List.filterMap_length_eq_length.mpr fun field member =>
          Option.isSome_iff_ne_none.mpr (valid.keyed field member)
      have enoughKeys : (numbers next (definition.fields.getD [])).length ≤
          ((definition.fields.getD []).filterMap key).length := by
        rw [length_numbers]
        exact Nat.le_of_eq allKeyed.symm
      simpa [childrenAt, beneath, noItems, noTemplate, Children.links, Function.comp_def] using
        List.map_snd_zip enoughKeys
  | array =>
      have noFields := valid.of_array registered
      cases hasTemplate : definition.each with
      | some template =>
          have noItems := valid.items_of_each hasTemplate
          simp [childrenAt, beneath, noFields, noItems, hasTemplate, Children.links, numbers]
      | none =>
          simp [childrenAt, beneath, noFields, hasTemplate, Children.links, Function.comp_def]
  | nil | boolean | integer | float | string =>
      rw [beneath_of_leaf (valid.isLeaf registered rfl)]
      rfl

end ParamDefinition

/-- A schema mirrors a document when its nodes are the definitions of the document, numbered in
preorder, and the children of a node are the definitions beneath its own, in order. -/
structure Schema.Mirrors (schema : Schema) (document : SchemaDocument) : Prop where
  strict : schema.strict = document.strict
  size : schema.nodes.size = document.params.preorder.length
  describes : ∀ (id : NodeId) definition, document.params.preorder[id]? = some definition →
    definition.Describes id (schema.node id)
  children : ∀ (id : NodeId) definition, document.params.preorder[id]? = some definition →
    List.Forall₂ (fun link child => document.params.preorder[link.2]? = some child)
      (schema.node id).children.links definition.beneath

end ParamSchema
