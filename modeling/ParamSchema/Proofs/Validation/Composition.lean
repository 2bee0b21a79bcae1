import ParamSchema.Proofs.Validation.Conformance
import ParamSchema.Proofs.Validation.SharedPath

/-!
Contract: a visit beneath a path is the visit of the same value alone.

Owns:
- errors and verdicts as they are seen from above a path;
- that a longer path in front, with as many levels more of depth and limit, changes no step, no walk
  over members and no visit, except for the paths of their errors;
- that a visit depends on the node, the value and the remaining depth only.

Does not own: computations over a shared path (`Proofs.Validation.SharedPath`).
-/

namespace ParamSchema

/-! ## Seen from above -/

/-- An error as it is seen from above: its path starts with the way down. -/
def ValidationError.under (above : Path) (error : ValidationError) : ValidationError :=
  ⟨above ++ error.path, error.failure⟩

/-- A verdict as it is seen from above. -/
def Verdict.under {α : Type} (above : Path) (verdict : Verdict α) : Verdict α :=
  verdict.mapError (ValidationError.under above)

namespace Verdict

section Under

variable {α β : Type} {above : Path}

@[simp]
theorem under_ok (value : α) : under above (.ok value) = .ok value := rfl

@[simp]
theorem under_error (path : Path) (failure : Failure) :
    under above (.error ⟨path, failure⟩ : Verdict α) = .error ⟨above ++ path, failure⟩ := rfl

@[simp]
theorem under_map (verdict : Verdict α) (function : α → β) :
    under above (verdict.map function) = (verdict.under above).map function := by
  cases verdict <;> rfl

@[simp]
theorem under_bind (verdict : Verdict α) (next : α → Verdict β) :
    under above (verdict.bind next) =
      (verdict.under above).bind fun value => (next value).under above := by
  cases verdict <;> rfl

theorem under_eq_ok_iff {verdict : Verdict α} {value : α} :
    verdict.under above = .ok value ↔ verdict = .ok value :=
  Except.mapError_eq_ok_iff

theorem under_eq_error_iff {verdict : Verdict α} {path : Path} {failure : Failure} :
    verdict.under above = .error ⟨path, failure⟩ ↔
      ∃ inner, path = above ++ inner ∧ verdict = .error ⟨inner, failure⟩ := by
  unfold under
  rw [Except.mapError_eq_error_iff]
  constructor
  · rintro ⟨⟨inner, found⟩, failed, same⟩
    cases same
    exact ⟨inner, rfl, failed⟩
  · rintro ⟨inner, rfl, failed⟩
    exact ⟨⟨inner, failure⟩, failed, rfl⟩

end Under

end Verdict

open Verdict

/-! ## Steps at a node -/

namespace Node

variable (node : Node) (limit depth levels : Nat) (above path : Path)

theorem applyHooks_under (value : Value) :
    node.applyHooks (above ++ path) value = (node.applyHooks path value).under above := by
  unfold applyHooks
  split
  · cases node.verdict value <;> rfl
  · rfl

/-- Levels that are added to the limit and to the depth leave as many between them. -/
theorem checkMember_under (container : TypeName) (value : Value) :
    node.checkMember container (limit + levels) (depth + levels) value (above ++ path) =
      (node.checkMember container limit depth value path).under above := by
  have sameRoom : (limit + levels < depth + levels + value.nestingDepth) ↔
      limit < depth + value.nestingDepth := by
    omega
  unfold checkMember
  simp only [sameRoom]
  split
  · rfl
  · split
    · rfl
    · split
      · rfl
      · rfl

theorem checkEntries_under (entries : List (String × Value)) :
    node.checkEntries (limit + levels) (depth + levels) (above ++ path) entries =
      (node.checkEntries limit depth path entries).under above := by
  induction entries with
  | nil => rfl
  | cons entry rest inductionHypothesis =>
      obtain ⟨key, value⟩ := entry
      rw [checkEntries_cons, checkEntries_cons, inductionHypothesis, List.append_assoc,
        checkMember_under, under_bind]

theorem checkElements_under (index : Nat) (elements : List Value) :
    node.checkElements (limit + levels) (depth + levels) (above ++ path) index elements =
      (node.checkElements limit depth path index elements).under above := by
  induction elements generalizing index with
  | nil => rfl
  | cons value rest inductionHypothesis =>
      rw [checkElements_cons, checkElements_cons, inductionHypothesis, List.append_assoc,
        checkMember_under, under_bind]

end Node

namespace Schema

/-! ## Walks over members -/

section Members

variable {schema : Schema} {visit alone : Visitor} {above path : Path}
  (visits : ∀ child part place, visit child part (above ++ place) =
    (alone child part place).under above)

include visits

theorem visitEntries_under (fields : List (String × NodeId)) (entries : List (String × Value)) :
    schema.visitEntries visit fields (above ++ path) entries =
      (schema.visitEntries alone fields path entries).under above := by
  induction entries with
  | nil => rfl
  | cons entry rest inductionHypothesis =>
      obtain ⟨key, value⟩ := entry
      cases found : fields.lookup key with
      | none =>
          rw [visitEntries_undeclared found, visitEntries_undeclared found, inductionHypothesis,
            List.append_assoc]
          split
          · rfl
          · rfl
      | some id =>
          rw [visitEntries_declared found, visitEntries_declared found, inductionHypothesis,
            List.append_assoc, visits]
          split
          · rfl
          · simp

theorem visitItems_under (index : Nat) (items : List NodeId) (elements : List Value) :
    schema.visitItems visit (above ++ path) index items elements =
      (schema.visitItems alone path index items elements).under above := by
  induction elements generalizing index items with
  | nil =>
      rw [visitItems, visitItems]
      rfl
  | cons value rest inductionHypothesis =>
      cases items with
      | nil =>
          rw [visitItems_undeclared, visitItems_undeclared, inductionHypothesis, List.append_assoc]
          split
          · rfl
          · rfl
      | cons id ids =>
          rw [visitItems_declared, visitItems_declared, inductionHypothesis, List.append_assoc,
            visits]
          split
          · exact (under_map _ _).symm
          · simp

theorem visitElements_under (template : NodeId) (index : Nat) (elements : List Value) :
    schema.visitElements visit template (above ++ path) index elements =
      (schema.visitElements alone template path index elements).under above := by
  induction elements generalizing index with
  | nil => rfl
  | cons value rest inductionHypothesis =>
      rw [visitElements_cons, visitElements_cons, inductionHypothesis, List.append_assoc, visits]
      split
      · rfl
      · simp

theorem visitMap_under (fields : List (String × NodeId)) (entries : List (String × Value)) :
    schema.visitMap visit fields entries (above ++ path) =
      (schema.visitMap alone fields entries path).under above := by
  unfold visitMap
  cases schema.missingKey? fields entries with
  | some key => rfl
  | none =>
      show (schema.visitEntries visit fields (above ++ path) entries).map Value.map =
        under above ((schema.visitEntries alone fields path entries).map Value.map)
      rw [visitEntries_under visits, under_map]

theorem visitSeq_under (items : List NodeId) (elements : List Value) :
    schema.visitSeq visit items elements (above ++ path) =
      (schema.visitSeq alone items elements path).under above := by
  unfold visitSeq
  split
  · rfl
  · rw [visitItems_under visits, under_map]

theorem visitParts_under (limit depth levels : Nat) (node : Node) (value : Value) :
    schema.visitParts (limit + levels) (depth + levels) visit node value (above ++ path) =
      (schema.visitParts limit depth alone node value path).under above := by
  have oneBelow : depth + levels + 1 = depth + 1 + levels := Nat.add_right_comm depth levels 1
  unfold visitParts
  split
  · rw [oneBelow, Node.checkEntries_under, under_map]
  · exact visitMap_under visits _ _
  · rw [oneBelow, Node.checkElements_under, under_map]
  · exact visitSeq_under visits _ _
  · rw [visitElements_under visits, under_map]
  · split
    · rfl
    · rfl
  · rfl

end Members

/-! ## Visits -/

/-- A visit further down, with as much room below it, sees what the visit of the same value sees
from above. -/
theorem visit_under (schema : Schema) (limit levels : Nat) (above : Path) (depth : Nat)
    (id : NodeId) (input : Value) (path : Path) :
    schema.visit (limit + levels) (depth + levels) id input (above ++ path) =
      (schema.visit limit depth id input path).under above := by
  refine visit_induction
    (fun depth id input path verdict =>
      schema.visit (limit + levels) (depth + levels) id input (above ++ path) =
        verdict.under above) ?beyond ?step depth id input path
  case beyond =>
    intro depth id input path tooDeep
    have alsoTooDeep : limit + levels < depth + levels := by omega
    rw [visit_beyond alsoTooDeep, under_error]
  case step =>
    intro depth id input path inLimit below
    have alsoInLimit : depth + levels ≤ limit + levels := by omega
    have oneBelow : depth + levels + 1 = depth + 1 + levels := Nat.add_right_comm depth levels 1
    cases ofType : TypeName.classify input with
    | none =>
        rw [visit_unclassified inLimit ofType, visit_unclassified alsoInLimit ofType, under_error]
    | some observed =>
        by_cases isNil : input = .nil
        · subst isNil
          rw [visit_of_nil inLimit, visit_of_nil alsoInLimit]
          split
          · rfl
          · rfl
        · rw [visit_classified inLimit ofType isNil, visit_classified alsoInLimit ofType isNil]
          cases (schema.node id).conform observed input with
          | error failure => rfl
          | ok value =>
              show (schema.visitParts (limit + levels) (depth + levels)
                  (schema.visit (limit + levels) (depth + levels + 1)) (schema.node id) value
                  (above ++ path)).bind ((schema.node id).applyHooks (above ++ path)) =
                under above ((schema.visitParts limit depth (schema.visit limit (depth + 1))
                  (schema.node id) value path).bind ((schema.node id).applyHooks path))
              rw [oneBelow, visitParts_under below, under_bind]
              exact congrArg _ (funext ((schema.node id).applyHooks_under above path))

/-- A visit at a path and depth is the visit of the value alone: with the empty path, at depth zero,
and with the levels that remain as the limit. -/
structure VisitsAsAlone (schema : Schema) (limit depth : Nat) (id : NodeId) (value : Value)
    (path : Path) : Prop where
  succeeds : ∀ output, schema.visit limit depth id value path = .ok output ↔
    schema.visit (limit - depth) 0 id value [] = .ok output
  fails : ∀ place failure, schema.visit limit depth id value path = .error ⟨place, failure⟩ ↔
    ∃ inner, place = path ++ inner ∧
      schema.visit (limit - depth) 0 id value [] = .error ⟨inner, failure⟩
  /-- Over a shared path a success restores the path. -/
  restores : ∀ output, schema.visit (limit - depth) 0 id value [] = .ok output →
    (schema.walk limit depth id value).start path = (.ok output, path)
  /-- Over a shared path a failure stays where it was found. -/
  stays : ∀ inner failure, schema.visit (limit - depth) 0 id value [] = .error ⟨inner, failure⟩ →
    (schema.walk limit depth id value).start path =
      (.error ⟨path ++ inner, failure⟩, path ++ inner)
  /-- Nothing but the remaining levels counts. -/
  remaining : ∀ otherLimit otherDepth, otherDepth ≤ otherLimit →
    otherLimit - otherDepth = limit - depth →
      schema.visit otherLimit otherDepth id value path = schema.visit limit depth id value path

/-- The visit of a node on a value is the same wherever it takes place in a walk. -/
theorem visit_asAlone (schema : Schema) {limit depth : Nat} (within : depth ≤ limit) (id : NodeId)
    (value : Value) (path : Path) : schema.VisitsAsAlone limit depth id value path := by
  have fromAbove : ∀ {otherLimit otherDepth : Nat}, otherDepth ≤ otherLimit →
      schema.visit otherLimit otherDepth id value path =
        (schema.visit (otherLimit - otherDepth) 0 id value []).under path := by
    intro otherLimit otherDepth otherWithin
    have shifted := schema.visit_under (otherLimit - otherDepth) otherDepth path 0 id value []
    rwa [Nat.sub_add_cancel otherWithin, Nat.zero_add, List.append_nil] at shifted
  have shared := schema.walk_follows limit depth id value path
  refine ⟨?succeeds, ?fails, ?restores, ?stays, ?remaining⟩
  case succeeds =>
    intro output
    rw [fromAbove within, under_eq_ok_iff]
  case fails =>
    intro place failure
    rw [fromAbove within, under_eq_error_iff]
  case restores =>
    intro output alone
    rw [shared, fromAbove within, alone]
    rfl
  case stays =>
    intro inner failure alone
    rw [shared, fromAbove within, alone]
    rfl
  case remaining =>
    intro otherLimit otherDepth otherWithin sameRoom
    rw [fromAbove within, fromAbove otherWithin, sameRoom]

theorem annotated_meta_asAlone :
    annotated.visit 63 0 1 (.map [("x", .integer 3)]) [] =
        .error ⟨[.field "x"], .typeMismatch (some .integer) .string⟩ ∧
      annotated.VisitsAsAlone 64 1 1 (.map [("x", .integer 3)]) [.field "meta"] :=
  ⟨by cbv, annotated.visit_asAlone (by decide) 1 (.map [("x", .integer 3)]) [.field "meta"]⟩

end Schema

end ParamSchema
