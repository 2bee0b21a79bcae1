import Mathlib
import ParamSchema.Proofs.Validation.Visit
import ParamSchema.Validation.Validator

/-!
Contract: what a schema promises about the values that validation gives out.

Owns:
- values that fit a node, and values that satisfy a schema at a position;
- where the positions of an output come from;
- that every output satisfies its schema at every declared position.

Does not own: which values pass unchanged (`Proofs.Validation.Completeness`).
-/

namespace ParamSchema

/-! ## Values that fit a node -/

/-- A value fits a node when it is nil and the node takes nil, or when it has exactly the declared
type, equals one of the values to choose from if there are any, and passes the check. -/
inductive Node.Fits (node : Node) : Value → Prop where
  | nil (takesNil : node.type = .nil ∨ node.options.optional = true ∨
      node.options.allowNil = true) : Fits node .nil
  | ofType {value : Value} (type : TypeName.classify value = some node.type)
      (included : node.options.inclusion ≠ [] →
        ∃ choice ∈ node.options.inclusion, choice.equals value = true)
      (passes : ∀ check, node.options.check = some check → check.run value = .ok ()) :
      Fits node value

namespace Node

variable {node : Node} {value : Value}

theorem acceptsNil_eq_true_iff : node.acceptsNil = true ↔
    node.type = .nil ∨ node.options.optional = true ∨ node.options.allowNil = true := by
  simp [acceptsNil, or_assoc]

theorem includes_eq_true_iff : node.includes value = true ↔
    (node.options.inclusion ≠ [] →
      ∃ choice ∈ node.options.inclusion, choice.equals value = true) := by
  simp only [includes, Bool.or_eq_true, List.isEmpty_iff, List.any_eq_true]
  exact Decidable.or_iff_not_imp_left

theorem verdict_eq_ok_iff : node.verdict value = .ok () ↔
    ∀ check, node.options.check = some check → check.run value = .ok () := by
  unfold verdict
  cases node.options.check with
  | none => simp
  | some check => simp

end Node

namespace Schema

/-! ## Values that satisfy a schema -/

/-- What a schema asks of the value at the position of one node, beside what it asks of the
positions below. -/
structure Satisfies (schema : Schema) (id : NodeId) (value : Value) : Prop where
  fits : (schema.node id).Fits value
  /-- Beneath declared fields every key is declared. -/
  keys : ∀ fields entries, (schema.node id).children = .keyed fields → fields ≠ [] →
    value = .map entries → ∀ key part, (key, part) ∈ entries → ∃ child, (key, child) ∈ fields
  /-- Every required key is present. -/
  requiredKeys : ∀ fields entries, (schema.node id).children = .keyed fields →
    value = .map entries → ∀ key child, (key, child) ∈ fields →
      (schema.node child).isRequired = true → ∃ part, (key, part) ∈ entries
  /-- Beneath declared items there are no more elements than items. -/
  length : ∀ items elements, (schema.node id).children = .positional items → items ≠ [] →
    value = .seq elements → elements.length ≤ items.length
  /-- There is an element at the place of every required item. -/
  requiredItems : ∀ items elements, (schema.node id).children = .positional items →
    value = .seq elements → ∀ (index : Nat) child, items[index]? = some child →
      (schema.node child).isRequired = true → index < elements.length
  /-- Where nothing is declared every member is a scalar, unless containers are allowed. -/
  members : (schema.node id).children.isUndeclared = true → ∀ member ∈ value.members,
    member.isScalar = true ∨ (schema.node id).options.allowNonScalars = true

section Steps

variable {schema : Schema} {limit depth : Nat} {id : NodeId} {path : Path} {input output : Value}

theorem satisfies_nil (takesNil : (schema.node id).Fits .nil) : schema.Satisfies id .nil where
  fits := takesNil
  keys := by
    intro fields entries _ _ same
    cases same
  requiredKeys := by
    intro fields entries _ same
    cases same
  length := by
    intro items elements _ _ same
    cases same
  requiredItems := by
    intro items elements _ same
    cases same
  members := by
    intro _ member isMember
    cases isMember

/-! ### What rebuilding leaves beneath each kind of children -/

section Rebuilt

variable {visit : Visitor} (rebuilds : schema.Rebuilds limit depth visit id path input output)

include rebuilds

theorem Rebuilds.keys {fields : List (String × NodeId)} {results : List (String × Value)}
    (declared : (schema.node id).children = .keyed fields) (nonempty : fields ≠ [])
    (isMap : output = .map results) {key : String} {part : Value} (member : (key, part) ∈ results) :
    ∃ child, (key, child) ∈ fields := by
  obtain ⟨entries, others, -, same, -, walked⟩ := rebuilds.of_keyed declared nonempty
  cases isMap.symm.trans same
  obtain ⟨child, source, found, -⟩ := visitEntries_origin walked member
  exact ⟨child, mem_of_lookup_eq_some found⟩

/-- A required key that is found before the walk is not left out by it. -/
theorem Rebuilds.requiredKeys (coherent : schema.Coherent) {fields : List (String × NodeId)}
    {results : List (String × Value)} (declared : (schema.node id).children = .keyed fields)
    (isMap : output = .map results) {key : String} {child : NodeId}
    (member : (key, child) ∈ fields) (required : (schema.node child).isRequired = true) :
    ∃ part, (key, part) ∈ results := by
  obtain ⟨entries, others, -, same, present, walked⟩ :=
    rebuilds.of_keyed declared (List.ne_nil_of_mem member)
  cases isMap.symm.trans same
  obtain ⟨value, lookedUp, kept⟩ := missingKey?_eq_none_iff.mp present key child member required
  have found := coherent.lookup_eq_some declared member
  obtain ⟨part, inResults, -⟩ :=
    visitEntries_image walked found (mem_of_lookup_eq_some lookedUp) kept
  exact ⟨part, inResults⟩

theorem Rebuilds.length {items : List NodeId} {results : List Value}
    (declared : (schema.node id).children = .positional items) (nonempty : items ≠ [])
    (isSeq : output = .seq results) : results.length ≤ items.length := by
  obtain ⟨elements, others, -, same, -, walked⟩ := rebuilds.of_positional declared nonempty
  cases isSeq.symm.trans same
  rw [length_visitItems walked]
  exact Nat.min_le_left _ _

theorem Rebuilds.requiredItems {items : List NodeId} {results : List Value}
    (declared : (schema.node id).children = .positional items) (isSeq : output = .seq results)
    {index : Nat} {child : NodeId} (found : items[index]? = some child)
    (required : (schema.node child).isRequired = true) : index < results.length := by
  have nonempty := List.ne_nil_of_mem (List.mem_of_getElem? found)
  obtain ⟨elements, others, -, same, present, walked⟩ := rebuilds.of_positional declared nonempty
  cases isSeq.symm.trans same
  obtain ⟨value, held, -⟩ := itemMissing_eq_false_iff.mp present index child found required
  obtain ⟨part, inResults, -⟩ := visitItems_image walked found held
  obtain ⟨inRange, -⟩ := List.getElem?_eq_some_iff.mp inResults
  exact inRange

end Rebuilt

/-- What a visit gives satisfies the schema at the node that was visited. -/
theorem VisitStep.satisfies (coherent : schema.Coherent)
    (step : schema.VisitStep limit depth id path input output) : schema.Satisfies id output := by
  cases step with
  | nil accepts => exact satisfies_nil (.nil (Node.acceptsNil_eq_true_iff.mp accepts))
  | @rebuilt input value output notNil ofType source rebuilds included passes =>
      refine ⟨?fits, ?keys, ?requiredKeys, ?length, ?requiredItems, ?members⟩
      case fits =>
        exact .ofType (rebuilds.classify_eq.trans ofType) (Node.includes_eq_true_iff.mp included)
          (Node.verdict_eq_ok_iff.mp passes)
      case keys =>
        intro fields results declared nonempty isMap key part member
        exact rebuilds.keys declared nonempty isMap member
      case requiredKeys =>
        intro fields results declared isMap key child member required
        exact rebuilds.requiredKeys coherent declared isMap member required
      case length =>
        intro items results declared nonempty isSeq
        exact rebuilds.length declared nonempty isSeq
      case requiredItems =>
        intro items results declared isSeq index child found required
        exact rebuilds.requiredItems declared isSeq found required
      case members =>
        intro undeclared member isMember
        obtain ⟨rfl, accepts⟩ := rebuilds.of_isUndeclared undeclared
        exact (accepts member isMember).imp_right And.left

end Steps

/-! ## Whole outputs -/

section Outputs

variable {schema : Schema} {config : EngineConfig} {input output : Value}

/-- A call visits the root, unless the input is nil and the root does not take nil. -/
theorem validate_eq_ok_iff :
    schema.validate config input = .ok output ↔
      (input = .nil → (schema.node root).options.optional = true ∨
        (schema.node root).options.allowNil = true) ∧
      schema.visit config.depthLimit 0 root input [] = .ok output := by
  have notMissing : ¬(input.isNil && (schema.node root).isRequired &&
      !(schema.node root).options.allowNil) = true ↔
        (input = .nil → (schema.node root).options.optional = true ∨
          (schema.node root).options.allowNil = true) := by
    cases input with
    | nil => simp [Value.isNil, Node.isRequired, or_iff_not_imp_left]
    | boolean | integer | float | text | seq | map => simp [Value.isNil]
  unfold validate reduce
  rw [← notMissing]
  dsimp only
  split
  · next missing => simp [missing]
  · next present => simp [present]

/-- A position of what a visit gives is nil in the place of an optional item, or comes from the
visit of a position of the input. -/
theorem origin_of_position (plain : schema.Plain) {limit : Nat} {id found : NodeId} {part : Value}
    {route : Path} (position : schema.Position id output route found part) :
    ∀ {depth : Nat} {input : Value} {path : Path},
      schema.visit limit depth id input path = .ok output →
      (part = .nil ∧ (schema.node found).options.optional = true) ∨
        ∃ inputRoute source sourcePath, schema.Visited id input inputRoute found source ∧
          inputRoute.length = route.length ∧
            schema.visit limit (depth + route.length) found source sourcePath = .ok part := by
  induction position with
  | here id value =>
      intro depth input path visited
      exact .inr ⟨[], input, path, .here id input, rfl, visited⟩
  | @beneath id child found value part target segment route first rest inductionHypothesis =>
      intro depth input path visited
      have step := (visitStep_of_visit plain visited).2
      rcases step.origin first with
        ⟨rfl, optional, -⟩ | ⟨origin, source, isVisited, visitedPart⟩
      · obtain ⟨-, rfl, rfl⟩ := rest.of_nil
        exact .inl ⟨rfl, optional⟩
      · rcases inductionHypothesis visitedPart with
          isPlaceholder | ⟨inputRoute, deeper, deeperPath, descends, sameLength, visitedDeeper⟩
        · exact .inl isPlaceholder
        · refine .inr
            ⟨origin :: inputRoute, deeper, deeperPath, .beneath isVisited descends, ?_, ?_⟩
          · rw [List.length_cons, List.length_cons, sameLength]
          · rw [List.length_cons, ← Nat.add_assoc, Nat.add_right_comm]
            exact visitedDeeper

/-- Every output of a schema without transforms satisfies the schema at every declared position, in
strict mode or not. -/
theorem accepted_output_satisfies (built : schema.Built) (plain : schema.Plain)
    (accepted : schema.validate config input = .ok output) {path : Path} {id : NodeId}
    {part : Value} (position : schema.Position root output path id part) :
    schema.Satisfies id part := by
  obtain ⟨-, visited⟩ := validate_eq_ok_iff.mp accepted
  rcases origin_of_position plain position visited with
    ⟨rfl, optional⟩ | ⟨-, source, sourcePath, -, -, visitedPart⟩
  · exact satisfies_nil (.nil (.inr (.inl optional)))
  · exact (visitStep_of_visit plain visitedPart).2.satisfies built.coherent

end Outputs

/-! ### A schema with an annotation -/

/-- A strict object whose field `meta` must not be blank and may hold a text under `x`. -/
def annotated : Schema where
  nodes := #[
    { key := none, parent := none, type := .object, options := {},
      children := .keyed [("meta", 1)] },
    { key := some (.field "meta"), parent := some 0, type := .object,
      options := { allowBlank := false }, children := .keyed [("x", 2)] },
    { key := some (.field "x"), parent := some 1, type := .string,
      options := { optional := true }, children := .scalar }]
  strict := true

theorem annotated_built : annotated.Built := by
  have made : Schema.build true [.object "meta" { allowBlank := false }
      [.field "x" .string { optional := true }]] = .ok annotated := rfl
  exact .define made

theorem annotated_plain : annotated.Plain := by
  intro id
  match id with
  | 0 | 1 | 2 => rfl
  | id + 3 => rfl

theorem validate_annotated_set :
    annotated.validate {} (.map [("meta", .map [("x", .text "y")])]) =
      .ok (.map [("meta", .map [("x", .text "y")])]) := by
  cbv

/-- The text is dropped as nil under an optional field, behind the decision to keep `meta`. -/
theorem validate_annotated_unset :
    annotated.validate {} (.map [("meta", .map [("x", .nil)])]) =
      .ok (.map [("meta", .map [])]) := by
  cbv

theorem annotated_output_satisfies :
    annotated.validate {} (.map [("meta", .map [("x", .nil)])]) = .ok (.map [("meta", .map [])]) ∧
      annotated.Satisfies 1 (.map []) := by
  have isPart : annotated.DeclaredPart root (.map [("meta", .map [])]) (.field "meta") 1
      (.map []) := declaredPart_field rfl rfl List.mem_cons_self
  exact ⟨validate_annotated_unset, accepted_output_satisfies annotated_built annotated_plain
    validate_annotated_unset (.beneath isPart (.here 1 (.map [])))⟩

end Schema

end ParamSchema
