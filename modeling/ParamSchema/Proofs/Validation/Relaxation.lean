import ParamSchema.Proofs.Validation.Comparison
import ParamSchema.Proofs.Validation.Conformance

/-!
Contract: what lifting restrictions of a schema can change.

Owns:
- relaxed nodes and schemas, and the failures that a relaxation can avert;
- that a relaxed schema under a wider limit gives every other result unchanged.

Does not own: the comparison of two runs (`Proofs.Validation.Comparison`).
-/

namespace ParamSchema

/-! ## Relaxed schemas -/

/-- A relaxed node may take nil, convert, or hold containers where the node does not. All else is
the same. -/
structure Node.RelaxesTo (node relaxed : Node) : Prop where
  key : relaxed.key = node.key
  parent : relaxed.parent = node.parent
  type : relaxed.type = node.type
  children : relaxed.children = node.children
  optional : relaxed.options.optional = node.options.optional
  allowBlank : relaxed.options.allowBlank = node.options.allowBlank
  inclusion : relaxed.options.inclusion = node.options.inclusion
  transform : relaxed.options.transform = node.options.transform
  check : relaxed.options.check = node.options.check
  allowNil : node.options.allowNil = true → relaxed.options.allowNil = true
  coerce : node.options.coerce = true → relaxed.options.coerce = true
  allowNonScalars : node.options.allowNonScalars = true → relaxed.options.allowNonScalars = true

/-- A relaxed schema has the same nodes, any of them relaxed, and is strict only if the schema
is. -/
structure Schema.RelaxesTo (schema relaxed : Schema) : Prop where
  size : relaxed.nodes.size = schema.nodes.size
  nodes : ∀ id, (schema.node id).RelaxesTo (relaxed.node id)
  strict : relaxed.strict = true → schema.strict = true

/-- The failures that lifting a restriction can avert. -/
inductive Failure.Avertable : Failure → Prop where
  | keyNotAllowed (key : String) : Avertable (.keyNotAllowed key)
  | indexNotAllowed (index : Nat) : Avertable (.indexNotAllowed index)
  | typeMismatch (received : Option TypeName) (expected : TypeName) :
      Avertable (.typeMismatch received expected)
  | nil : Avertable .nil
  | missing : Avertable .missing
  | nonScalarMember (container : TypeName) : Avertable (.nonScalarMember container)
  | tooDeep : Avertable .tooDeep

/-! ## One node -/

namespace Node.RelaxesTo

variable {node relaxed : Node} (relaxes : node.RelaxesTo relaxed)

include relaxes

theorem acceptsNil_of_acceptsNil (accepts : node.acceptsNil = true) :
    relaxed.acceptsNil = true := by
  rw [acceptsNil_eq_true_iff] at accepts ⊢
  rw [relaxes.type, relaxes.optional]
  exact accepts.imp_right (Or.imp_right relaxes.allowNil)

/-- A relaxed node converts alike, except that it may convert what is a mismatch without it. -/
theorem conform_eq_or_mismatch (observed : TypeName) (input : Value) :
    relaxed.conform observed input = node.conform observed input ∨
      ∃ failure, node.conform observed input = .error failure ∧ failure.Avertable := by
  unfold conform
  rw [relaxes.type]
  cases coerces : node.options.coerce with
  | true =>
      left
      rw [relaxes.coerce coerces]
  | false =>
      by_cases mismatched : node.type.mismatches observed
      · right
        rw [if_pos mismatched]
        exact ⟨_, rfl, .typeMismatch (some observed) node.type⟩
      · left
        rw [if_neg mismatched, if_neg mismatched]

theorem checkMember_agrees {limit wider : Nat} (deeper : limit ≤ wider) (container : TypeName)
    (depth : Nat) (value : Value) (path : Path) :
    Verdict.Agrees Failure.Avertable (node.checkMember container limit depth value path)
      (relaxed.checkMember container wider depth value path) := by
  unfold checkMember
  by_cases scalar : value.isScalar
  · rw [if_pos scalar, if_pos scalar]
    exact .refl _
  · rw [if_neg scalar, if_neg scalar]
    cases allowed : node.options.allowNonScalars with
    | false => exact .of_excused (.nonScalarMember container)
    | true =>
        rw [relaxes.allowNonScalars allowed]
        by_cases fits : limit < depth + value.nestingDepth
        · simp only [fits, if_true, Bool.not_true, Bool.false_eq_true, if_false]
          exact .of_excused .tooDeep
        · have fitsWider : ¬wider < depth + value.nestingDepth := by omega
          simp only [fits, fitsWider]
          exact .refl _

theorem applyHooks_eq (path : Path) (value : Value) :
    relaxed.applyHooks path value = node.applyHooks path value := by
  apply applyHooks_congr
  case included => rw [includes, includes, relaxes.inclusion]
  case checked =>
    intro _
    rw [verdict, verdict, relaxes.check]
  case transformed =>
    intro _ _
    rw [transformed, transformed, relaxes.transform]

end Node.RelaxesTo

/-! ## Whole inputs -/

namespace Schema

variable {schema relaxed : Schema}

theorem RelaxesTo.comparable (relaxes : schema.RelaxesTo relaxed) :
    schema.Comparable Failure.Avertable relaxed where
  type id := (relaxes.nodes id).type
  children id := (relaxes.nodes id).children
  optional id := (relaxes.nodes id).optional
  allowBlank id := (relaxes.nodes id).allowBlank
  strictness := by
    cases isStrict : relaxed.strict with
    | true => exact .inl (relaxes.strict isStrict).symm
    | false => exact .inr ⟨rfl, .keyNotAllowed, .indexNotAllowed⟩

theorem RelaxesTo.visit_agrees (relaxes : schema.RelaxesTo relaxed) {limit wider : Nat}
    (deeper : limit ≤ wider) (depth : Nat) (id : NodeId) (input : Value) (path : Path) :
    Verdict.Agrees Failure.Avertable (schema.visit limit depth id input path)
      (relaxed.visit wider depth id input path) := by
  have comparable := relaxes.comparable
  refine visit_induction
    (fun depth id input path verdict =>
      Verdict.Agrees Failure.Avertable verdict (relaxed.visit wider depth id input path))
    ?beyond ?step depth id input path
  case beyond =>
    intro depth id input path tooDeep
    exact .of_excused .tooDeep
  case step =>
    intro depth id input path inLimit children
    have node := relaxes.nodes id
    refine visit_agrees_of_parts comparable.toSameOutline inLimit (Nat.le_trans inLimit deeper)
      ?nil ?conforms ?parts ?hooks
    case nil =>
      cases accepts : (schema.node id).acceptsNil with
      | true => exact .inl (node.acceptsNil_of_acceptsNil accepts)
      | false =>
          cases (relaxed.node id).acceptsNil with
          | true => exact .inr ⟨rfl, .nil⟩
          | false => exact .inl rfl
    case conforms => exact fun observed => node.conform_eq_or_mismatch observed input
    case parts =>
      exact visitParts_agrees comparable children fun container value place =>
        node.checkMember_agrees deeper container (depth + 1) value place
    case hooks =>
      intro observed value output _ _ _ _
      rw [node.applyHooks_eq]
      exact .refl _

/-- A relaxed schema under a wider limit agrees with the schema on every input. -/
theorem RelaxesTo.reduce_agrees (relaxes : schema.RelaxesTo relaxed) {limit wider : Nat}
    (deeper : limit ≤ wider) (input : Value) :
    Verdict.Agrees Failure.Avertable (schema.reduce limit input) (relaxed.reduce wider input) := by
  have visited := relaxes.visit_agrees deeper 0 root input []
  unfold reduce
  dsimp only
  rw [relaxes.comparable.isRequired_eq]
  cases allowed : (schema.node root).options.allowNil with
  | true =>
      rw [(relaxes.nodes root).allowNil allowed]
      split
      · exact .of_excused .missing
      · exact visited
  | false =>
      by_cases missing : input.isNil && (schema.node root).isRequired
      · rw [missing]
        exact .of_excused .missing
      · simp only [Bool.not_eq_true] at missing
        rw [missing]
        exact visited

/-- Lifting restrictions, under a limit on depth that is not lower, changes no result but failures
of the restrictions themselves: what was accepted is accepted with the same output, and every other
failure is found at the same place. -/
theorem validate_eq_of_relaxesTo (relaxes : schema.RelaxesTo relaxed) {config wider : EngineConfig}
    (deeper : config.depthLimit ≤ wider.depthLimit) (input : Value) :
    (relaxed.validate wider input = schema.validate config input ∨
      ∃ path failure, schema.validate config input = .error ⟨path, failure⟩ ∧
        failure.Avertable) ∧
    (∀ output, schema.validate config input = .ok output →
      relaxed.validate wider input = .ok output) ∧
    ∀ path failure, schema.validate config input = .error ⟨path, failure⟩ →
      ¬failure.Avertable → relaxed.validate wider input = .error ⟨path, failure⟩ := by
  have agrees : Verdict.Agrees Failure.Avertable (schema.validate config input)
      (relaxed.validate wider input) := relaxes.reduce_agrees deeper input
  rcases agrees with same | ⟨⟨place, reason⟩, failed, avertable⟩
  · exact ⟨.inl same, fun output accepted => same.trans accepted,
      fun path failure failed _ => same.trans failed⟩
  · refine ⟨.inr ⟨place, reason, failed, avertable⟩, ?_, ?_⟩
    · intro output accepted
      rw [failed] at accepted
      cases accepted
    · intro path failure alsoFailed notAvertable
      rw [failed] at alsoFailed
      cases alsoFailed
      exact absurd avertable notAvertable

/-- The annotated schema, not strict, with a text that is converted where needed and an annotation
that may be nil. -/
def lenient : Schema where
  nodes := #[
    { key := none, parent := none, type := .object, options := {},
      children := .keyed [("meta", 1)] },
    { key := some (.field "meta"), parent := some 0, type := .object,
      options := { allowNil := true, allowBlank := false }, children := .keyed [("x", 2)] },
    { key := some (.field "x"), parent := some 1, type := .string,
      options := { optional := true, coerce := true }, children := .scalar }]
  strict := false

theorem annotated_relaxesTo_lenient : annotated.RelaxesTo lenient where
  size := rfl
  strict := nofun
  nodes id := by
    match id with
    | 0 | 1 | 2 => constructor <;> simp [annotated, lenient, node, Arena.node]
    | id + 3 => constructor <;> simp [annotated, lenient, node, Arena.node]

theorem lenient_accepts_set :
    lenient.validate { maxDepth := 128 } (.map [("meta", .map [("x", .text "y")])]) =
      .ok (.map [("meta", .map [("x", .text "y")])]) :=
  (validate_eq_of_relaxesTo annotated_relaxesTo_lenient
    (show EngineConfig.depthLimit {} ≤ EngineConfig.depthLimit { maxDepth := 128 } by decide)
    _).2.1 _ validate_annotated_set

end Schema

end ParamSchema
