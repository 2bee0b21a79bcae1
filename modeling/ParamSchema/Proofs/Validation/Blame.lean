import ParamSchema.Proofs.Validation.Conformance
import ParamSchema.Proofs.Validation.Failing

/-!
Contract: errors point at the value that is to blame.

Owns:
- what each failure says about the value at its path;
- that the error of a validation is true of the value that its path leads to.

Does not own: which of several violations is reported.
-/

namespace ParamSchema

/-! ## Types and hooks that refuse -/

namespace TypeName

theorem mismatches_eq_true_iff {type observed : TypeName} :
    type.mismatches observed = true ↔ observed ≠ type ∧ observed ≠ .nil := by
  simp [mismatches]

theorem classify_eq_none_iff {value : Value} :
    classify value = none ↔ ∃ number, value = .float number ∧ number.isFinite = false := by
  cases value with
  | float number => simp [classify]
  | nil | boolean | integer | text | seq | map => simp [classify]

end TypeName

namespace Node

variable {node : Node} {value : Value}

theorem acceptsNil_eq_false_iff : node.acceptsNil = false ↔
    node.type ≠ .nil ∧ node.isRequired = true ∧ node.options.allowNil = false := by
  simp [acceptsNil, isRequired, and_assoc]

theorem includes_eq_false_iff : node.includes value = false ↔
    node.options.inclusion ≠ [] ∧
      ∀ choice ∈ node.options.inclusion, choice.equals value = false := by
  simp [includes]

theorem verdict_eq_error_iff {message : String} : node.verdict value = .error message ↔
    ∃ check, node.options.check = some check ∧ check.run value = .error message := by
  unfold verdict
  cases node.options.check with
  | none => simp
  | some check => simp

end Node

namespace Schema

variable {schema : Schema} {limit depth : Nat} {id : NodeId} {path : Path}

theorem Position.reaches {found : NodeId} {value target : Value}
    (position : schema.Position id value path found target) : value.Reaches path target := by
  induction position with
  | here id value => exact .here value
  | beneath first rest inductionHypothesis => exact .beneath first.within inductionHypothesis

theorem Position.resolve?_eq_some {found : NodeId} {value target : Value}
    (position : schema.Position id value path found target) :
    schema.resolve? id path = some found := by
  induction position with
  | here id value => rfl
  | beneath first rest inductionHypothesis =>
      rw [resolve?, first.declared]
      exact inductionHypothesis

/-! ## What failures say -/

/-- What a failure says about the value at its path, and about the node that is declared there. -/
inductive Blames (schema : Schema) (limit : Nat) : Path → Value → Failure → Prop where
  /-- Nil stands in place of everything, and the root does not take it. -/
  | missing (required : (schema.node root).isRequired = true)
      (refused : (schema.node root).options.allowNil = false) :
      Blames schema limit [] .nil .missing
  | nil {path : Path} {id : NodeId} (declared : schema.resolve? root path = some id)
      (ofOtherType : (schema.node id).type ≠ .nil) (required : (schema.node id).isRequired = true)
      (refused : (schema.node id).options.allowNil = false) :
      Blames schema limit path .nil .nil
  /-- Only a float that is not finite is of no type. -/
  | unknownType {path : Path} {id : NodeId} {number : Binary64}
      (declared : schema.resolve? root path = some id) (infinite : number.isFinite = false) :
      Blames schema limit path (.float number) (.typeMismatch none (schema.node id).type)
  | typeMismatch {path : Path} {id : NodeId} {value : Value} {observed : TypeName}
      (declared : schema.resolve? root path = some id)
      (ofType : TypeName.classify value = some observed) (notNil : observed ≠ .nil)
      (different : observed ≠ (schema.node id).type)
      (unconverted : ((schema.node id).options.coerce &&
        (schema.node id).type.canCoerceFrom observed) = false) :
      Blames schema limit path value (.typeMismatch (some observed) (schema.node id).type)
  | coercionFailed {path : Path} {id : NodeId} {value : Value} {observed : TypeName}
      {reason : CoercionError} (declared : schema.resolve? root path = some id)
      (ofType : TypeName.classify value = some observed)
      (different : observed ≠ (schema.node id).type)
      (coerces : (schema.node id).options.coerce = true)
      (allowed : (schema.node id).type.canCoerceFrom observed = true)
      (failed : (schema.node id).type.coerce value = .error reason) :
      Blames schema limit path value .coercionFailed
  /-- A container stands in a container of scalars beneath which nothing is declared. -/
  | nonScalarMember {parent : Path} {id : NodeId} {segment : Segment} {value : Value}
      (declared : schema.resolve? root parent = some id)
      (undeclared : (schema.node id).children.isUndeclared = true)
      (container : value.isScalar = false)
      (refused : (schema.node id).options.allowNonScalars = false) :
      Blames schema limit (parent ++ [segment]) value (.nonScalarMember (schema.node id).type)
  | requiredKeysMissing {path : Path} {id child : NodeId} {fields : List (String × NodeId)}
      {entries : List (String × Value)} {key : String}
      (declared : schema.resolve? root path = some id)
      (children : (schema.node id).children = .keyed fields) (isField : (key, child) ∈ fields)
      (required : (schema.node child).isRequired = true)
      (absent : ∀ part, entries.lookup key = some part → (schema.node child).skips part = true) :
      Blames schema limit path (.map entries) (.requiredKeysMissing key)
  | keyNotAllowed {parent : Path} {id : NodeId} {fields : List (String × NodeId)} {key : String}
      {value : Value} (declared : schema.resolve? root parent = some id)
      (children : (schema.node id).children = .keyed fields) (nonempty : fields ≠ [])
      (undeclared : ∀ child, (key, child) ∉ fields) (strict : schema.strict = true) :
      Blames schema limit (parent ++ [.field key]) value (.keyNotAllowed key)
  | requiredItemsMissing {path : Path} {id child : NodeId} {items : List NodeId}
      {elements : List Value} {index : Nat} (declared : schema.resolve? root path = some id)
      (children : (schema.node id).children = .positional items)
      (isItem : items[index]? = some child) (required : (schema.node child).isRequired = true)
      (absent : ∀ part, elements[index]? = some part → (schema.node child).skips part = true) :
      Blames schema limit path (.seq elements) .requiredItemsMissing
  /-- The first element behind the declared items. -/
  | indexNotAllowed {parent : Path} {id : NodeId} {items : List NodeId} {value : Value}
      (declared : schema.resolve? root parent = some id)
      (children : (schema.node id).children = .positional items) (nonempty : items ≠ [])
      (strict : schema.strict = true) :
      Blames schema limit (parent ++ [.index items.length]) value (.indexNotAllowed items.length)
  | notIncluded {path : Path} {id : NodeId} {value output : Value}
      (declared : schema.resolve? root path = some id)
      (handsOver : schema.HandsOver limit path.length id path value output)
      (constrained : (schema.node id).options.inclusion ≠ [])
      (excluded : ∀ choice ∈ (schema.node id).options.inclusion, choice.equals output = false) :
      Blames schema limit path value .notIncluded
  | invalid {path : Path} {id : NodeId} {value output : Value} {check : Check} {message : String}
      (declared : schema.resolve? root path = some id)
      (handsOver : schema.HandsOver limit path.length id path value output)
      (checked : (schema.node id).options.check = some check)
      (rejected : check.run output = .error message) :
      Blames schema limit path value (.invalid message)
  /-- A declared place one level below the limit. -/
  | tooDeep {path : Path} {id : NodeId} {value : Value}
      (declared : schema.resolve? root path = some id) (beyond : path.length = limit + 1) :
      Blames schema limit path value .tooDeep
  /-- A container that is kept as it is and reaches below the limit. -/
  | memberTooDeep {parent : Path} {id : NodeId} {segment : Segment} {value : Value}
      (declared : schema.resolve? root parent = some id)
      (undeclared : (schema.node id).children.isUndeclared = true)
      (allowed : (schema.node id).options.allowNonScalars = true)
      (container : value.isScalar = false)
      (beyond : limit < (parent ++ [segment]).length + value.nestingDepth) :
      Blames schema limit (parent ++ [segment]) value .tooDeep

/-- The path of an error leads to a value that the failure is true of. -/
def PointsAtBlame (schema : Schema) (limit : Nat) (input : Value) (error : ValidationError) :
    Prop :=
  ∃ value, input.Reaches error.path value ∧ schema.Blames limit error.path value error.failure

/-! ## Failures of one visit -/

section Visits

variable {visit : Visitor} {input value : Value} {error : ValidationError}

theorem PartsFail.pointsAtBlame (position : schema.Position root input path id value)
    (atDepth : path.length = depth)
    (visits : ∀ {segment child part error}, schema.VisitedPart id value segment child part →
      visit child part (path ++ [segment]) = .error error → schema.PointsAtBlame limit input error)
    (fails : schema.PartsFail limit depth visit id path value error) :
    schema.PointsAtBlame limit input error := by
  have reaches := position.reaches
  have declared := position.resolve?_eq_some
  cases fails with
  | memberRefused within undeclared container refused =>
      exact ⟨_, reaches.snoc within, .nonScalarMember declared undeclared container refused⟩
  | memberTooDeep within undeclared container allowed beyond =>
      refine ⟨_, reaches.snoc within, .memberTooDeep declared undeclared allowed container ?_⟩
      rw [List.length_append, atDepth]
      exact beyond
  | keyMissing children isField required absent =>
      exact ⟨_, reaches, .requiredKeysMissing declared children isField required absent⟩
  | keyNotAllowed children nonempty held absent strict =>
      refine ⟨_, reaches.snoc (.entry held), .keyNotAllowed declared children nonempty ?_ strict⟩
      intro child isField
      have differs := List.lookup_eq_none_iff.mp absent _ isField
      simp at differs
  | itemMissing children isItem required absent =>
      exact ⟨_, reaches, .requiredItemsMissing declared children isItem required absent⟩
  | indexNotAllowed children nonempty held strict =>
      exact ⟨_, reaches.snoc (.element held), .indexNotAllowed declared children nonempty strict⟩
  | visited isPart failed => exact visits isPart failed

theorem VisitFails.pointsAtBlame (position : schema.Position root input path id value)
    (atDepth : path.length = depth) (inLimit : depth ≤ limit)
    (visits : ∀ {segment child part error}, schema.VisitedPart id value segment child part →
      schema.visit limit (depth + 1) child part (path ++ [segment]) = .error error →
        schema.PointsAtBlame limit input error)
    (fails : schema.VisitFails limit depth id path value error) :
    schema.PointsAtBlame limit input error := by
  have reaches := position.reaches
  have declared := position.resolve?_eq_some
  subst atDepth
  cases fails with
  | tooDeep beyond => exact absurd inLimit (Nat.not_le.mpr beyond)
  | unknownType ofNoType =>
      obtain ⟨number, rfl, infinite⟩ := TypeName.classify_eq_none_iff.mp ofNoType
      exact ⟨_, reaches, .unknownType declared infinite⟩
  | nil refused =>
      obtain ⟨ofOtherType, required, refusesNil⟩ := Node.acceptsNil_eq_false_iff.mp refused
      exact ⟨_, reaches, .nil declared ofOtherType required refusesNil⟩
  | typeMismatch ofType mismatched unconverted =>
      obtain ⟨different, notNil⟩ := TypeName.mismatches_eq_true_iff.mp mismatched
      exact ⟨_, reaches, .typeMismatch declared ofType notNil different unconverted⟩
  | coercionFailed ofType mismatched coerces allowed failed =>
      obtain ⟨different, -⟩ := TypeName.mismatches_eq_true_iff.mp mismatched
      exact ⟨_, reaches, .coercionFailed declared ofType different coerces allowed failed⟩
  | parts ofType fails => exact fails.pointsAtBlame position rfl visits
  | notIncluded handsOver excluded =>
      obtain ⟨constrained, differs⟩ := Node.includes_eq_false_iff.mp excluded
      exact ⟨_, reaches, .notIncluded declared handsOver constrained differs⟩
  | invalid handsOver rejected =>
      obtain ⟨check, checked, rejects⟩ := Node.verdict_eq_error_iff.mp rejected
      exact ⟨_, reaches, .invalid declared handsOver checked rejects⟩

/-- The error of a visit at a declared position points at the value to blame. -/
theorem visit_pointsAtBlame (coherent : schema.Coherent) (depth : Nat) (id : NodeId)
    (value : Value) (path : Path) : depth ≤ limit + 1 → path.length = depth →
      schema.Position root input path id value → ∀ error,
        schema.visit limit depth id value path = .error error →
          schema.PointsAtBlame limit input error := by
  -- A path has one segment for each level, and the walk leaves the limit by one level at most.
  refine visit_induction
    (fun depth id value path verdict => depth ≤ limit + 1 → path.length = depth →
      schema.Position root input path id value → ∀ error, verdict = .error error →
        schema.PointsAtBlame limit input error) ?beyond ?step depth id value path
  case beyond =>
    intro depth id value path beyond inReach atDepth position error failed
    cases failed
    have isNext : path.length = limit + 1 := by omega
    exact ⟨value, position.reaches, .tooDeep position.resolve?_eq_some isNext⟩
  case step =>
    intro depth id value path inLimit below inReach atDepth position error failed
    refine (visit_eq_error coherent failed).pointsAtBlame position atDepth inLimit ?_
    intro segment child part partError isPart partFailed
    refine below child part (path ++ [segment]) (by omega) ?_ (position.snoc isPart.toDeclaredPart)
      partError partFailed
    rw [List.length_append, atDepth, List.length_singleton]

end Visits

/-! ## Failures of a validation -/

/-- The error of a validation points at a value of the input, and says what is true of it. -/
theorem validate_error_pointsAtBlame (built : schema.Built) {config : EngineConfig} {input : Value}
    {error : ValidationError} (failed : schema.validate config input = .error error) :
    ∃ value, input.Reaches error.path value ∧
      schema.Blames config.depthLimit error.path value error.failure := by
  unfold validate reduce at failed
  dsimp only at failed
  split at failed
  · next isMissing =>
      cases failed
      simp only [Bool.and_eq_true, Bool.not_eq_true', Value.isNil_eq_true_iff] at isMissing
      obtain ⟨⟨rfl, required⟩, refused⟩ := isMissing
      exact ⟨.nil, .here .nil, .missing required refused⟩
  · exact visit_pointsAtBlame built.coherent 0 root input [] (Nat.zero_le _) rfl (.here root input)
      error failed

theorem validate_annotated_integer :
    annotated.validate {} (.map [("meta", .map [("x", .integer 3)])]) =
      .error ⟨[.field "meta", .field "x"], .typeMismatch (some .integer) .string⟩ := by
  cbv

theorem annotated_integer_pointsAtBlame :
    annotated.validate {} (.map [("meta", .map [("x", .integer 3)])]) =
        .error ⟨[.field "meta", .field "x"], .typeMismatch (some .integer) .string⟩ ∧
      ∃ value, Value.Reaches (.map [("meta", .map [("x", .integer 3)])])
          [.field "meta", .field "x"] value ∧
        annotated.Blames (EngineConfig.depthLimit {}) [.field "meta", .field "x"] value
          (.typeMismatch (some .integer) .string) :=
  ⟨validate_annotated_integer,
    validate_error_pointsAtBlame annotated_built validate_annotated_integer⟩

end Schema

end ParamSchema
