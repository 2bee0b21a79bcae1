import ParamSchema.Proofs.Validation.Blame

/-!
Contract: the defensive branches of the walk.

Owns:
- the walk with other outcomes in place of its defensive branches;
- that no built schema tells these walks apart, whatever the outcomes are;
- that no failure is one of a defensive branch: each type mismatch names two different types.

Does not own: the failures that are reported (`Proofs.Validation.Blame`).

The walk defends itself against a value of another form than the children of its node have. Such a
value would have to get past the match of types, or come out of a conversion.
-/

namespace ParamSchema

/-- The outcomes of the two defensive branches: a container where only a scalar can be taken, and
a value that no kind of children can take apart. -/
structure Defences where
  nonScalar : Node → Value → Path → Verdict Value
  otherForm : Node → Value → Path → Verdict Value

/-- The defences of the walk. -/
def Defences.ofWalk : Defences where
  nonScalar _ _ path := .error ⟨path, .nonScalar⟩
  otherForm node value path := .error ⟨path, .typeMismatch (TypeName.classify value) node.type⟩

/-- A failure that is none of a defensive branch: a mismatch is one between two types. -/
def Failure.Genuine : Failure → Prop
  | .nonScalar => False
  | .typeMismatch received expected => TypeName.describe received ≠ expected.name
  | _ => True

namespace TypeName

theorem name_injective : ∀ type other : TypeName, type.name = other.name → type = other := by
  intro type other same
  cases type <;> cases other <;> first | rfl | simp [name] at same

theorem name_ne_unknown (type : TypeName) : type.name ≠ "unknown" := by
  cases type <;> decide

end TypeName

namespace Schema

/-! ## The walk with other defences -/

/-- The parts of a value, with the defences of the walk exchanged. -/
def visitPartsOr (schema : Schema) (defences : Defences) (limit depth : Nat) (visit : Visitor)
    (node : Node) (value : Value) (path : Path) : Verdict Value :=
  match node.children, value with
  | .keyed [], .map entries =>
      (node.checkEntries limit (depth + 1) path entries).map fun _ => .map entries
  | .keyed fields, .map entries => schema.visitMap visit fields entries path
  | .positional [], .seq elements =>
      (node.checkElements limit (depth + 1) path 0 elements).map fun _ => .seq elements
  | .positional items, .seq elements => schema.visitSeq visit items elements path
  | .homogeneous template, .seq elements =>
      (schema.visitElements visit template path 0 elements).map .seq
  | .scalar, leaf => if leaf.isScalar then .ok leaf else defences.nonScalar node leaf path
  | _, other => defences.otherForm node other path

/-- A node on a value, with the defences of the walk exchanged. -/
def visitOr (schema : Schema) (defences : Defences) (limit depth : Nat) (id : NodeId)
    (input : Value) (path : Path) : Verdict Value :=
  if limit < depth then .error ⟨path, .tooDeep⟩
  else
    let node := schema.node id
    match TypeName.classify input with
    | none => .error ⟨path, .typeMismatch none node.type⟩
    | some observed =>
        if input.isNil then
          if node.acceptsNil then .ok .nil else .error ⟨path, .nil⟩
        else
          match node.conform observed input with
          | .error failure => .error ⟨path, failure⟩
          | .ok value =>
              let visitChild := schema.visitOr defences limit (depth + 1)
              match schema.visitPartsOr defences limit depth visitChild node value path with
              | .error error => .error error
              | .ok output => node.applyHooks path output
termination_by limit + 1 - depth

/-- The call on an input, with the defences of the walk exchanged. -/
def validateOr (schema : Schema) (defences : Defences) (config : EngineConfig) (input : Value) :
    Verdict Value :=
  let top := schema.node root
  if input.isNil && top.isRequired && !top.options.allowNil then .error ⟨[], .missing⟩
  else schema.visitOr defences config.depthLimit 0 root input []

section Idle

variable {schema : Schema} {defences : Defences} {limit depth : Nat} {path : Path}

/-- With its own defences the walk is the walk, whether a schema is coherent or not. -/
theorem visitPartsOr_ofWalk (visit : Visitor) (node : Node) (value : Value) :
    schema.visitPartsOr .ofWalk limit depth visit node value path =
      schema.visitParts limit depth visit node value path := rfl

/-- A value of the type of a coherent node is taken apart by its children. -/
theorem visitPartsOr_eq_visitParts {node : Node} (children : node.children.OfType node.type)
    {value : Value} (ofType : TypeName.classify value = some node.type) (visit : Visitor) :
    schema.visitPartsOr defences limit depth visit node value path =
      schema.visitParts limit depth visit node value path := by
  unfold visitPartsOr visitParts
  generalize node.children = below at children
  generalize node.type = type at children ofType
  cases children with
  | keyed fields =>
      obtain ⟨entries, rfl⟩ := TypeName.exists_map_of_classify ofType
      cases fields <;> rfl
  | positional items =>
      obtain ⟨elements, rfl⟩ := TypeName.exists_seq_of_classify ofType
      cases items <;> rfl
  | homogeneous template =>
      obtain ⟨elements, rfl⟩ := TypeName.exists_seq_of_classify ofType
      rfl
  | scalar typeScalar =>
      have valueScalar : value.isScalar = true := by
        rw [TypeName.isScalar_of_classify ofType, typeScalar]
      dsimp only
      rw [if_pos valueScalar, if_pos valueScalar]

/-- Walks that take the values of the type of each node apart alike visit alike. -/
theorem visitOr_eq_visit_of_parts
    (parts : ∀ depth visit id value path, TypeName.classify value = some (schema.node id).type →
      schema.visitPartsOr defences limit depth visit (schema.node id) value path =
        schema.visitParts limit depth visit (schema.node id) value path)
    (depth : Nat) (id : NodeId) (input : Value) (path : Path) :
    schema.visitOr defences limit depth id input path = schema.visit limit depth id input path := by
  refine visit_induction
    (fun depth id input path verdict =>
      schema.visitOr defences limit depth id input path = verdict) ?beyond ?step depth id input path
  case beyond =>
    intro depth id input path tooDeep
    rw [visitOr, if_pos tooDeep]
  case step =>
    intro depth id input path inLimit below
    have sameBelow : schema.visitOr defences limit (depth + 1) = schema.visit limit (depth + 1) :=
      funext fun child => funext fun part => funext fun place => below child part place
    have notBeyond : ¬limit < depth := Nat.not_lt.mpr inLimit
    rw [visitOr, if_neg notBeyond, sameBelow]
    cases ofType : TypeName.classify input with
    | none => rw [visit_unclassified inLimit ofType]
    | some observed =>
        by_cases isNil : input = .nil
        · subst isNil
          cases ofType
          rw [visit_of_nil inLimit]
          rfl
        · have notNil : ¬input.isNil = true := fun same => isNil (Value.isNil_eq_true_iff.mp same)
          rw [visit_classified inLimit ofType isNil]
          dsimp only
          rw [if_neg notNil]
          cases conforms : (schema.node id).conform observed input with
          | error failure => rfl
          | ok value =>
              have valueOfType := (Node.conform_eq_ok ofType isNil conforms).1
              dsimp only
              show _ = (schema.visitParts limit depth (schema.visit limit (depth + 1))
                (schema.node id) value path).bind fun output =>
                  (schema.node id).applyHooks path output
              rw [← parts depth _ id value path valueOfType]
              cases schema.visitPartsOr defences limit depth (schema.visit limit (depth + 1))
                (schema.node id) value path <;> rfl

theorem visitOr_ofWalk (id : NodeId) (input : Value) :
    schema.visitOr .ofWalk limit depth id input path = schema.visit limit depth id input path :=
  visitOr_eq_visit_of_parts (fun _ visit id value _ _ =>
    visitPartsOr_ofWalk visit (schema.node id) value) depth id input path

theorem visitOr_eq_visit (coherent : schema.Coherent) (id : NodeId) (input : Value) :
    schema.visitOr defences limit depth id input path = schema.visit limit depth id input path :=
  visitOr_eq_visit_of_parts (fun _ visit id _ _ ofType =>
    visitPartsOr_eq_visitParts (coherent.ofType id) ofType visit) depth id input path

end Idle

/-! ## Failures -/

section Failures

variable {schema : Schema} {limit : Nat}

/-- The failures of a visit are genuine once those of the visits below are. -/
theorem VisitFails.genuine {depth : Nat} {id : NodeId} {input : Value} {path : Path}
    {error : ValidationError}
    (below : ∀ child part place error,
      schema.visit limit (depth + 1) child part place = .error error → error.failure.Genuine)
    (fails : schema.VisitFails limit depth id path input error) : error.failure.Genuine := by
  cases fails with
  | unknownType => exact fun same => TypeName.name_ne_unknown _ same.symm
  | typeMismatch ofType mismatched =>
      obtain ⟨different, -⟩ := TypeName.mismatches_eq_true_iff.mp mismatched
      exact fun same => different (TypeName.name_injective _ _ same)
  | parts ofType fails =>
      cases fails with
      | visited isPart failed => exact below _ _ _ _ failed
      | memberRefused | memberTooDeep | keyMissing | keyNotAllowed | itemMissing
      | indexNotAllowed => trivial
  | tooDeep | nil | coercionFailed | notIncluded | invalid => trivial

theorem visit_genuine (coherent : schema.Coherent) (depth : Nat) (id : NodeId) (input : Value)
    (path : Path) : ∀ error, schema.visit limit depth id input path = .error error →
      error.failure.Genuine := by
  refine visit_induction
    (fun _ _ _ _ verdict => ∀ error, verdict = .error error → error.failure.Genuine)
    ?beyond ?step depth id input path
  case beyond =>
    intro depth id input path tooDeep error failed
    cases failed
    trivial
  case step =>
    intro depth id input path inLimit below error failed
    exact (visit_eq_error coherent failed).genuine below

theorem validate_genuine (built : schema.Built) {config : EngineConfig} {input : Value}
    {error : ValidationError} (failed : schema.validate config input = .error error) :
    error.failure.Genuine := by
  unfold validate reduce at failed
  dsimp only at failed
  split at failed
  · cases failed
    trivial
  · exact visit_genuine built.coherent 0 root input [] error failed

end Failures

/-- Nothing in the call on an input depends on the defences of the walk: whatever they are, the
verdict is the same, and no failure is one of theirs. -/
structure DefencesIdle (schema : Schema) (config : EngineConfig) (input : Value) : Prop where
  sameVerdict : ∀ defences, schema.validateOr defences config input = schema.validate config input
  neverNonScalar : ∀ path, schema.validate config input ≠ .error ⟨path, .nonScalar⟩
  /-- A mismatch names a received type other than the expected one. -/
  differentTypes : ∀ path received expected,
    schema.validate config input = .error ⟨path, .typeMismatch received expected⟩ →
      TypeName.describe received ≠ expected.name

/-- No call on a built schema reaches a defensive branch. -/
theorem defencesIdle_of_built {schema : Schema} (built : schema.Built) (config : EngineConfig)
    (input : Value) : schema.DefencesIdle config input := by
  refine ⟨?sameVerdict, ?neverNonScalar, ?differentTypes⟩
  case sameVerdict =>
    intro defences
    unfold validateOr validate reduce
    rw [visitOr_eq_visit built.coherent]
  case neverNonScalar =>
    intro path failed
    exact validate_genuine built failed
  case differentTypes =>
    intro path received expected failed
    exact validate_genuine built failed

theorem annotated_defencesIdle :
    annotated.Built ∧ annotated.DefencesIdle {} (.map [("meta", .map [("x", .integer 3)])]) :=
  ⟨annotated_built, defencesIdle_of_built annotated_built {} _⟩

/-- A schema that no builder makes reaches a defence: an object with the children of a scalar. -/
example :
    Schema.validate ⟨#[⟨none, none, .object, {}, .scalar⟩], true⟩ {} (.map []) =
      .error ⟨[], .nonScalar⟩ := by
  cbv

end Schema

end ParamSchema
