import ParamSchema.Proofs.Document.Bodies

/-!
Contract: documents build exactly the schemas that they describe.

Owns:
- the run that makes the schema of a document;
- that a document has a schema exactly when all its definitions are valid, and that the schema
  mirrors the document.

Does not own: the error of a document without a schema.
-/

namespace ParamSchema

namespace SchemaDocument

variable {document : SchemaDocument} {type : TypeName}

/-- Nodes that are as valid definitions say lead to one another as the definitions do. -/
theorem children_of_describes {definition : ParamDefinition} {id : NodeId} {node : Node}
    (valid : definition.Valid) (isPart : document.params.preorder[id]? = some definition)
    (described : definition.Describes id node) :
    List.Forall₂ (fun link child => document.params.preorder[link.2]? = some child)
      node.children.links definition.beneath := by
  obtain ⟨rest, suffix⟩ := ParamDefinition.drop_preorder isPart
  have behind : document.params.preorder.drop (id + 1) =
      definition.beneath.flatMap ParamDefinition.preorder ++ rest := by
    rw [← List.drop_drop, suffix, ParamDefinition.preorder_eq]
    rfl
  have numbered := ParamDefinition.forall₂_numbers behind
  rw [← ParamDefinition.links_childrenAt valid described.type (id + 1), ← described.children]
    at numbered
  exact List.forall₂_map_left_iff.mp numbered

theorem mirrors_of_grows (registered : TypeName.lookup document.params.typeName = some type)
    (valid : document.params.TreeValid) {after : Arena}
    (grows : Arena.Grows Schema.root (document.params.childrenAt type 1) document.params.beneath
      (Arena.ofRoot type document.params.options) after) :
    Schema.Mirrors ⟨after, document.strict⟩ document := by
  have describes : ∀ (id : NodeId) definition, document.params.preorder[id]? = some definition →
      definition.Describes id (after.node id) := by
    intro id definition isPart
    have size : (Arena.ofRoot type document.params.options).size = Schema.root + 1 := rfl
    have described := ParamDefinition.describes_of_grows registered size rfl rfl grows id isPart
    rw [Schema.root, Nat.zero_add] at described
    exact described
  constructor
  case strict => rfl
  case size =>
    rw [grows.size, ParamDefinition.preorder_eq, List.length_cons, Nat.add_comm]
    rfl
  case describes => exact describes
  case children =>
    intro id definition isPart
    exact children_of_describes (valid definition (List.mem_of_getElem? isPart)) isPart
      (describes id definition isPart)

/-- The run that makes the schema of a document succeeds exactly when its definitions are valid. -/
theorem exists_run (registered : TypeName.lookup document.params.typeName = some type) :
    ∃ run : Build, document.toSchema = run.schema document.strict ∧
      run.SucceedsWhen document.params.TreeValid
        (Arena.Grows Schema.root (document.params.childrenAt type 1) document.params.beneath
          (Arena.ofRoot type document.params.options)) := by
  unfold toSchema
  cases hasChildren : document.params.hasChildren with
  | false =>
      refine ⟨⟨Arena.ofRoot type document.params.options, [], none⟩, ?_, ?_⟩
      · simp only [registered, hasChildren, Bool.false_eq_true, if_false]
        rfl
      · refine .of_ok rfl (ParamDefinition.treeValid_of_leaf hasChildren registered) ?_
        rw [ParamDefinition.beneath_of_leaf hasChildren,
          ParamDefinition.childrenAt_of_leaf hasChildren]
        exact .refl rfl
  | true =>
      refine ⟨Schema.declare type document.params.options document.params.body, ?_, ?_⟩
      · simp only [registered, hasChildren, if_true]
        rfl
      · unfold Schema.declare
        cases composite : type.isScalar with
        | true =>
            simp only [if_true]
            exact .of_failed rfl
              (ParamDefinition.not_treeValid_of_scalar registered hasChildren composite)
        | false =>
            simp only [Bool.false_eq_true, if_false]
            have runs := document.params.bodyRuns (Arena.ofRoot type document.params.options)
              Schema.root type (by simp [Arena.ofRoot, Schema.root]) registered composite rfl
            exact ⟨runs.iff, runs.reaches⟩

theorem mirrors_of_toSchema {schema : Schema} (made : document.toSchema = .ok schema) :
    schema.Mirrors document := by
  cases registered : TypeName.lookup document.params.typeName with
  | none => simp [toSchema, registered] at made
  | some type =>
      obtain ⟨run, isRun, runs⟩ := exists_run registered
      obtain ⟨succeeds, leadsTo⟩ := runs.schema document.strict
      rw [isRun] at made
      obtain ⟨after, rfl, grows⟩ := leadsTo schema made
      exact mirrors_of_grows registered (succeeds.mp ⟨_, made⟩) grows

/-- A document has a schema exactly when all its definitions are valid, and that schema mirrors the
document. -/
theorem toSchema_mirrors (document : SchemaDocument) :
    ((∃ schema, document.toSchema = .ok schema) ↔
        ∀ definition ∈ document.params.preorder, definition.Valid) ∧
      ∀ schema, document.toSchema = .ok schema → schema.Mirrors document := by
  refine ⟨?_, fun schema made => mirrors_of_toSchema made⟩
  change _ ↔ document.params.TreeValid
  cases registered : TypeName.lookup document.params.typeName with
  | none =>
      have refused : document.toSchema = .error (.unknownType document.params.typeName) := by
        simp [toSchema, registered]
      simp [refused, ParamDefinition.not_treeValid_of_unknown registered]
  | some type =>
      obtain ⟨run, isRun, runs⟩ := exists_run registered
      rw [isRun]
      exact (runs.schema document.strict).1

end SchemaDocument

end ParamSchema
