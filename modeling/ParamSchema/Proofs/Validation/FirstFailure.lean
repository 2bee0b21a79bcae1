import ParamSchema.Proofs.Validation.Failing
import ParamSchema.Proofs.Validation.Revision

/-!
Contract: walks fail with the first of the parts that fails.

Owns:
- steps over the parts of a value in order, up to the first that fails;
- each walk over members as such steps;
- that every error of a visit has its path at or below the place that is visited, and is one of the
  parts of the value where it is below.

Does not own: what a change of the parts does to a walk (`Proofs.Validation.Stability`).
-/

namespace ParamSchema

/-! ## The first failure -/

/-- A step for each part in order, up to the first that fails. -/
def firstFailure (step : Segment → Value → Verdict Unit) : List (Segment × Value) → Verdict Unit
  | [] => .ok ()
  | (segment, part) :: rest => (step segment part).bind fun _ => firstFailure step rest

theorem Except.eq_error_iff_of_map {ε α : Type} {outcome : Except ε α} {steps : Except ε Unit}
    (same : outcome.map (fun _ => ()) = steps) {error : ε} :
    outcome = .error error ↔ steps = .error error := by
  rw [← same, Except.map_eq_error_iff]

theorem firstFailure_eq_error {step : Segment → Value → Verdict Unit}
    {parts : List (Segment × Value)} {error : ValidationError}
    (failed : firstFailure step parts = .error error) :
    ∃ segment part, (segment, part) ∈ parts ∧ step segment part = .error error := by
  induction parts with
  | nil => cases failed
  | cons head rest inductionHypothesis =>
      obtain ⟨segment, part⟩ := head
      rw [firstFailure, Except.bind_eq_error_iff] at failed
      rcases failed with here | ⟨-, -, later⟩
      · exact ⟨segment, part, List.mem_cons_self, here⟩
      · obtain ⟨other, otherPart, member, fails⟩ := inductionHypothesis later
        exact ⟨other, otherPart, List.mem_cons_of_mem _ member, fails⟩

/-! ## Walks as steps -/

namespace Node

variable {node : Node} {limit depth : Nat} {path : Path}

theorem checkEntries_eq_firstFailure (entries : List (String × Value)) :
    node.checkEntries limit depth path entries =
      firstFailure
        (fun segment part => node.checkMember .object limit depth part (path ++ [segment]))
        (Value.map entries).parts := by
  induction entries with
  | nil => rfl
  | cons entry rest inductionHypothesis =>
      obtain ⟨key, value⟩ := entry
      rw [checkEntries_cons, inductionHypothesis]
      rfl

theorem checkElements_eq_firstFailure (index : Nat) (elements : List Value) :
    node.checkElements limit depth path index elements =
      firstFailure
        (fun segment part => node.checkMember .array limit depth part (path ++ [segment]))
        (Value.partsFrom index elements) := by
  induction elements generalizing index with
  | nil => rfl
  | cons value rest inductionHypothesis =>
      rw [checkElements_cons, inductionHypothesis, Value.partsFrom_cons]
      rfl

theorem checkMember_place {container : TypeName} {value : Value} {error : ValidationError}
    (failed : node.checkMember container limit depth value path = .error error) :
    error.path = path := by
  obtain ⟨-, ⟨-, rfl⟩ | ⟨-, -, rfl⟩⟩ := checkMember_eq_error failed
  · rfl
  · rfl

theorem applyHooks_place {value : Value} {error : ValidationError}
    (failed : node.applyHooks path value = .error error) : error.path = path := by
  obtain ⟨-, rfl⟩ | ⟨-, -, rfl⟩ := applyHooks_eq_error failed
  · rfl
  · rfl

end Node

/-- What is refused as undeclared under a step. -/
def Failure.undeclared : Segment → Failure
  | .field key => .keyNotAllowed key
  | .index index => .indexNotAllowed index

namespace Schema

variable {schema : Schema} {visit : Visitor} {path : Path} {id : NodeId}

/-- What becomes of a part beneath declarations: it is refused or passed over as undeclared, left
out by its node, or visited. -/
def partVerdict (schema : Schema) (visit : Visitor) (id : NodeId) (path : Path) (segment : Segment)
    (part : Value) : Verdict Unit :=
  match schema.step? id segment with
  | none => if schema.strict then .error ⟨path ++ [segment], .undeclared segment⟩ else .ok ()
  | some child =>
      if (schema.node child).skips part then .ok ()
      else (visit child part (path ++ [segment])).map fun _ => ()

theorem visitEntries_firstFailure {fields : List (String × NodeId)}
    (declared : (schema.node id).children = .keyed fields) (entries : List (String × Value)) :
    (schema.visitEntries visit fields path entries).map (fun _ => ()) =
      firstFailure (schema.partVerdict visit id path) (Value.map entries).parts := by
  induction entries with
  | nil => rfl
  | cons entry rest inductionHypothesis =>
      obtain ⟨key, value⟩ := entry
      have isStep := step?_of_keyed declared key
      have firstStep : firstFailure (schema.partVerdict visit id path)
          (Value.map ((key, value) :: rest)).parts =
            (schema.partVerdict visit id path (.field key) value).bind fun _ =>
              firstFailure (schema.partVerdict visit id path) (Value.map rest).parts := rfl
      rw [firstStep, ← inductionHypothesis, partVerdict, isStep]
      cases found : fields.lookup key with
      | none =>
          rw [visitEntries_undeclared found]
          split
          · rfl
          · rfl
      | some child =>
          rw [visitEntries_declared found]
          dsimp only
          split
          · rfl
          · cases visit child value (path ++ [.field key]) with
            | error error => rfl
            | ok result => cases schema.visitEntries visit fields path rest <;> rfl

/-- Items are walked from an index on: those before it have been passed. -/
theorem visitItems_firstFailure {items : List NodeId}
    (declared : (schema.node id).children = .positional items) (index : Nat)
    (elements : List Value) :
    (schema.visitItems visit path index (items.drop index) elements).map (fun _ => ()) =
      firstFailure (schema.partVerdict visit id path) (Value.partsFrom index elements) := by
  induction elements generalizing index with
  | nil =>
      rw [visitItems]
      rfl
  | cons value rest inductionHypothesis =>
      have isStep := step?_of_positional declared index
      have tail : (items.drop index).tail = items.drop (index + 1) := List.tail_drop
      rw [Value.partsFrom_cons, firstFailure, ← inductionHypothesis, partVerdict, isStep,
        ← List.head?_drop, ← tail]
      cases items.drop index with
      | nil =>
          rw [visitItems_undeclared]
          dsimp only [List.head?_nil, List.tail_nil]
          split
          · rfl
          · rfl
      | cons child children =>
          rw [visitItems_declared]
          dsimp only [List.head?_cons, List.tail_cons]
          split
          · cases schema.visitItems visit path (index + 1) children rest <;> rfl
          · cases visit child value (path ++ [.index index]) with
            | error error => rfl
            | ok result => cases schema.visitItems visit path (index + 1) children rest <;> rfl

theorem visitElements_firstFailure {template : NodeId}
    (declared : (schema.node id).children = .homogeneous template) (index : Nat)
    (elements : List Value) :
    (schema.visitElements visit template path index elements).map (fun _ => ()) =
      firstFailure (schema.partVerdict visit id path) (Value.partsFrom index elements) := by
  induction elements generalizing index with
  | nil => rfl
  | cons value rest inductionHypothesis =>
      rw [visitElements_cons, Value.partsFrom_cons, firstFailure, ← inductionHypothesis,
        partVerdict, step?_of_homogeneous declared]
      dsimp only
      split
      · rfl
      · cases visit template value (path ++ [.index index]) with
        | error error => rfl
        | ok result => cases schema.visitElements visit template path (index + 1) rest <;> rfl

/-! ## Paths of errors -/

section Errors

variable {limit : Nat} (coherent : schema.Coherent)

include coherent

/-- The error of a visit is found at the place that is visited or below. -/
theorem visit_error_path (depth : Nat) (id : NodeId)
    (input : Value) (path : Path) :
    ∀ error, schema.visit limit depth id input path = .error error → path <+: error.path := by
  refine visit_induction
    (fun _ _ _ path verdict => ∀ error, verdict = .error error → path <+: error.path)
    ?beyond ?step depth id input path
  case beyond =>
    intro depth id input path tooDeep error failed
    cases failed
    exact List.prefix_refl path
  case step =>
    intro depth id input path inLimit below error failed
    cases visit_eq_error coherent failed with
    | parts ofType fails =>
        cases fails with
        | keyMissing | itemMissing => exact List.prefix_refl path
        | memberRefused | memberTooDeep | keyNotAllowed | indexNotAllowed =>
            exact List.prefix_append path _
        | @visited value part segment child error isPart partFails =>
            exact (List.prefix_append path [segment]).trans
              (below child part (path ++ [segment]) error partFails)
    | tooDeep | unknownType | nil | typeMismatch | coercionFailed | notIncluded | invalid =>
        exact List.prefix_refl path

/-- A visit fails below its place exactly when the value is a container of the right type, and its
parts fail so. -/
theorem visit_error_beneath_iff {depth : Nat} (inLimit : depth ≤ limit) {value : Value}
    {error : ValidationError} (beneath : error.path ≠ path) :
    schema.visit limit depth id value path = .error error ↔
      TypeName.classify value = some (schema.node id).type ∧
        (schema.node id).type.isScalar = false ∧
          schema.visitParts limit depth (schema.visit limit (depth + 1)) (schema.node id) value
            path = .error error := by
  constructor
  · intro failed
    obtain ⟨ofType, composite⟩ : TypeName.classify value = some (schema.node id).type ∧
        (schema.node id).type.isScalar = false := by
      cases visit_eq_error coherent failed with
      | parts ofType fails =>
          exact ⟨ofType, TypeName.isScalar_of_classify ofType ▸ fails.isScalar_eq_false⟩
      | tooDeep | unknownType | nil | typeMismatch | coercionFailed | notIncluded | invalid =>
          exact absurd rfl beneath
    refine ⟨ofType, composite, ?_⟩
    rw [visit_own_container inLimit ofType composite, Except.bind_eq_error_iff] at failed
    rcases failed with partsFail | ⟨output, -, hooksFail⟩
    · exact partsFail
    · exact absurd (Node.applyHooks_place hooksFail) beneath
  · rintro ⟨ofType, composite, partsFail⟩
    rw [visit_own_container inLimit ofType composite, partsFail]
    rfl

end Errors

end Schema

end ParamSchema
