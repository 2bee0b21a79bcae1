import ParamSchema.Proofs.Validation.FirstFailure
import ParamSchema.Validation.SharedPath

/-!
Contract: the walk over a shared path agrees with the walk that hands out paths.

Owns:
- computations over a shared path that follow a verdict for each path: they reach the same verdict,
  leave the path as they found it when they succeed, and leave the path of the error when they fail;
- that steps down and back up, sequences and the walks over members follow so;
- that the visit of a node over a shared path follows the visit that is given its path.

Does not own: what a verdict has to do with the path (`Proofs.Validation.Composition`).
-/

namespace ParamSchema

/-- A verdict with the path that it leaves to what comes after: a success leaves the path as it was,
an error leaves its own. -/
def Verdict.leaving {α : Type} (path : Path) : Verdict α → Verdict α × Path
  | .ok value => (.ok value, path)
  | .error error => (.error error, error.path)

/-- A computation over a shared path that reaches the verdict for its path, and leaves the path
accordingly. -/
def Walker.Follows {α : Type} (walker : Walker α) (direct : Path → Verdict α) : Prop :=
  ∀ path, walker.start path = (direct path).leaving path

/-! ## Steps -/

namespace Walker

section Steps

variable {α β : Type} {walker : Walker α} {direct : Path → Verdict α}

theorem start_pure (value : α) (path : Path) :
    (pure value : Walker α).start path = (.ok value, path) := rfl

theorem start_bind (walker : Walker α) (next : α → Walker β) (path : Path) :
    (walker >>= next).start path =
      match walker.start path with
      | (.ok value, after) => (next value).start after
      | (.error error, after) => (.error error, after) := by
  show (ExceptT.bindCont next (walker.start path).1).run (walker.start path).2 = _
  cases walker.start path with
  | mk outcome after => cases outcome <;> rfl

theorem start_reading (step : Path → Verdict α) (path : Path) :
    (reading step).start path = (step path, path) := by
  show (match step path with
    | .ok value => (return value : Walker α)
    | .error error => throw error).start path = _
  cases step path <;> rfl

theorem follows_pure (value : α) : (pure value : Walker α).Follows fun _ => .ok value :=
  start_pure value

/-- What only looks at the path leaves it where it is, which is where it has to fail. -/
theorem follows_reading {step : Path → Verdict α}
    (place : ∀ path error, step path = .error error → error.path = path) :
    (reading step).Follows step := by
  intro path
  rw [start_reading]
  cases outcome : step path with
  | ok value => rfl
  | error error => rw [Verdict.leaving, place path error outcome]

theorem follows_failHere (failure : Failure) :
    (failHere failure : Walker α).Follows fun path => .error ⟨path, failure⟩ := by
  apply follows_reading
  rintro path error ⟨⟩
  rfl

theorem Follows.bind {next : α → Walker β} {later : α → Path → Verdict β}
    (first : walker.Follows direct) (rest : ∀ value, (next value).Follows (later value)) :
    (walker >>= next).Follows fun path => (direct path).bind fun value => later value path := by
  intro path
  show _ = Verdict.leaving path ((direct path).bind fun value => later value path)
  rw [start_bind, first path]
  cases direct path with
  | ok value => exact rest value path
  | error error => rfl

theorem Follows.map (follows : walker.Follows direct) (function : α → β) :
    (do return function (← walker) : Walker β).Follows fun path => (direct path).map function := by
  have mapped := follows.bind fun value => follows_pure (function value)
  have same : ∀ path, ((direct path).bind fun value => .ok (function value)) =
      (direct path).map function := by
    intro path
    cases direct path <;> rfl
  simpa only [same] using mapped

/-- A step down that fails where it leads. -/
theorem follows_down_failHere (segment : Segment) (failure : Failure) :
    (do down segment; failHere failure : Walker α).Follows fun path =>
      .error ⟨path ++ [segment], failure⟩ := by
  intro path
  rw [start_bind]
  exact follows_failHere failure (path ++ [segment])

/-- What is done beneath a step follows the verdict one step below; after a success the step back up
restores the path. -/
theorem Follows.beneath (follows : walker.Follows direct) (segment : Segment) :
    (beneath segment walker).Follows fun path => direct (path ++ [segment]) := by
  intro path
  have stepsBack : ∀ value : α,
      (do up; return value : Walker α).start (path ++ [segment]) = (.ok value, path) := by
    intro value
    show (Except.ok value, (path ++ [segment]).dropLast) = _
    rw [List.dropLast_concat]
  show (walker >>= fun value => do up; return value).start (path ++ [segment]) =
    Verdict.leaving path (direct (path ++ [segment]))
  rw [start_bind, follows (path ++ [segment])]
  cases direct (path ++ [segment]) with
  | ok value => exact stepsBack value
  | error error => rfl

end Steps

end Walker

open Walker

/-! ## Members without declarations -/

namespace Node

variable (node : Node) (limit depth : Nat)

theorem walkEntries_follows (entries : List (String × Value)) :
    (node.walkEntries limit depth entries).Follows fun path =>
      node.checkEntries limit depth path entries := by
  induction entries with
  | nil => exact follows_pure ()
  | cons entry rest inductionHypothesis =>
      obtain ⟨key, value⟩ := entry
      have member : (beneath (.field key)
          (reading (node.checkMember .object limit depth value))).Follows fun path =>
            node.checkMember .object limit depth value (path ++ [.field key]) :=
        (follows_reading fun _ _ => checkMember_place).beneath (.field key)
      simp only [checkEntries_cons]
      exact member.bind fun _ => inductionHypothesis

theorem walkElements_follows (index : Nat) (elements : List Value) :
    (node.walkElements limit depth index elements).Follows fun path =>
      node.checkElements limit depth path index elements := by
  induction elements generalizing index with
  | nil => exact follows_pure ()
  | cons value rest inductionHypothesis =>
      have member : (beneath (.index index)
          (reading (node.checkMember .array limit depth value))).Follows fun path =>
            node.checkMember .array limit depth value (path ++ [.index index]) :=
        (follows_reading fun _ _ => checkMember_place).beneath (.index index)
      simp only [checkElements_cons]
      exact member.bind fun _ => inductionHypothesis (index + 1)

end Node

namespace Schema

/-! ## Declared members -/

section Members

variable {schema : Schema} {walker : SharedVisitor} {visit : Visitor}
  (visits : ∀ id value, (walker id value).Follows (visit id value))

include visits

theorem walkEntries_follows (fields : List (String × NodeId)) (entries : List (String × Value)) :
    (schema.walkEntries walker fields entries).Follows fun path =>
      schema.visitEntries visit fields path entries := by
  induction entries with
  | nil => exact follows_pure []
  | cons entry rest inductionHypothesis =>
      obtain ⟨key, value⟩ := entry
      rw [walkEntries]
      cases found : fields.lookup key with
      | none =>
          simp only [visitEntries_undeclared found]
          split
          · exact follows_down_failHere (.field key) (.keyNotAllowed key)
          · exact inductionHypothesis
      | some id =>
          simp only [visitEntries_declared found]
          split
          · exact inductionHypothesis
          · exact ((visits id value).beneath (.field key)).bind fun result =>
              inductionHypothesis.map ((key, result) :: ·)

theorem walkItems_follows (index : Nat) (items : List NodeId) (elements : List Value) :
    (schema.walkItems walker index items elements).Follows fun path =>
      schema.visitItems visit path index items elements := by
  induction elements generalizing index items with
  | nil =>
      simp only [walkItems, visitItems]
      exact follows_pure []
  | cons value rest inductionHypothesis =>
      cases items with
      | nil =>
          simp only [walkItems, visitItems_undeclared]
          split
          · exact follows_down_failHere (.index index) (.indexNotAllowed index)
          · exact inductionHypothesis (index + 1) []
      | cons id ids =>
          have later := inductionHypothesis (index + 1) ids
          simp only [walkItems, visitItems_declared]
          split
          · exact later.map (.nil :: ·)
          · exact ((visits id value).beneath (.index index)).bind fun result =>
              later.map (result :: ·)

theorem walkElements_follows (template : NodeId) (index : Nat) (elements : List Value) :
    (schema.walkElements walker template index elements).Follows fun path =>
      schema.visitElements visit template path index elements := by
  induction elements generalizing index with
  | nil => exact follows_pure []
  | cons value rest inductionHypothesis =>
      have later := inductionHypothesis (index + 1)
      simp only [walkElements, visitElements_cons]
      split
      · exact later
      · exact ((visits template value).beneath (.index index)).bind fun result =>
          later.map (result :: ·)

theorem walkMap_follows (fields : List (String × NodeId)) (entries : List (String × Value)) :
    (schema.walkMap walker fields entries).Follows (schema.visitMap visit fields entries) := by
  unfold walkMap visitMap
  cases schema.missingKey? fields entries with
  | some key => exact follows_failHere (.requiredKeysMissing key)
  | none => exact (walkEntries_follows visits fields entries).map Value.map

theorem walkSeq_follows (items : List NodeId) (elements : List Value) :
    (schema.walkSeq walker items elements).Follows (schema.visitSeq visit items elements) := by
  unfold walkSeq visitSeq
  split
  · exact follows_failHere .requiredItemsMissing
  · exact (walkItems_follows visits 0 items elements).map Value.seq

/-! ## Nodes -/

theorem walkParts_follows (limit depth : Nat) (node : Node) (value : Value) :
    (schema.walkParts limit depth walker node value).Follows
      (schema.visitParts limit depth visit node value) := by
  unfold walkParts visitParts
  cases node.children with
  | scalar =>
      dsimp only
      split
      · exact follows_pure value
      · exact follows_failHere .nonScalar
  | keyed fields =>
      cases fields with
      | nil =>
          cases value with
          | map entries =>
              exact (node.walkEntries_follows limit (depth + 1) entries).map
                fun _ => Value.map entries
          | nil | boolean | integer | float | text | seq => exact follows_failHere _
      | cons field rest =>
          cases value with
          | map entries => exact walkMap_follows visits (field :: rest) entries
          | nil | boolean | integer | float | text | seq => exact follows_failHere _
  | positional items =>
      cases items with
      | nil =>
          cases value with
          | seq elements =>
              exact (node.walkElements_follows limit (depth + 1) 0 elements).map
                fun _ => Value.seq elements
          | nil | boolean | integer | float | text | map => exact follows_failHere _
      | cons item rest =>
          cases value with
          | seq elements => exact walkSeq_follows visits (item :: rest) elements
          | nil | boolean | integer | float | text | map => exact follows_failHere _
  | homogeneous template =>
      cases value with
      | seq elements => exact (walkElements_follows visits template 0 elements).map Value.seq
      | nil | boolean | integer | float | text | map => exact follows_failHere _

end Members

/-- The visit of a node over a shared path reaches the verdict of the visit that is given its path,
and leaves the path as it found it unless it fails. -/
theorem walk_follows (schema : Schema) (limit depth : Nat) (id : NodeId) (input : Value) :
    (schema.walk limit depth id input).Follows (schema.visit limit depth id input) := by
  show (schema.walk limit depth id input).Follows fun path =>
    schema.visit limit depth id input path
  rw [walk]
  by_cases tooDeep : limit < depth
  · simp only [if_pos tooDeep, visit_beyond tooDeep]
    exact follows_failHere .tooDeep
  · have inLimit : depth ≤ limit := Nat.le_of_not_lt tooDeep
    rw [if_neg tooDeep]
    cases ofType : TypeName.classify input with
    | none =>
        simp only [visit_unclassified inLimit ofType]
        exact follows_failHere _
    | some observed =>
        by_cases isNil : input = .nil
        · subst isNil
          simp only [visit_of_nil inLimit, Value.isNil, if_true]
          split
          · exact follows_pure Value.nil
          · exact follows_failHere Failure.nil
        · have notNil : ¬input.isNil = true := fun same => isNil (Value.isNil_eq_true_iff.mp same)
          simp only [visit_classified inLimit ofType isNil, if_neg notNil]
          cases (schema.node id).conform observed input with
          | error failure => exact follows_failHere failure
          | ok value =>
              have parts : (schema.walkParts limit depth (schema.walk limit (depth + 1))
                  (schema.node id) value).Follows
                    (schema.visitParts limit depth (schema.visit limit (depth + 1))
                      (schema.node id) value) :=
                walkParts_follows (schema.walk_follows limit (depth + 1)) limit depth
                  (schema.node id) value
              have hooks : ∀ output, (reading fun path =>
                  (schema.node id).applyHooks path output).Follows fun path =>
                    (schema.node id).applyHooks path output :=
                fun output => follows_reading fun path error => Node.applyHooks_place
              exact parts.bind hooks
termination_by limit + 1 - depth

end Schema

end ParamSchema
