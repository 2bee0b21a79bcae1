import ParamSchema.Proofs.Validation.Walks

/-!
Contract: two runs of the walk over one input, under schemas of the same outline.

Owns:
- agreement of two verdicts, up to failures of the first run that are excused;
- nodes of the same rules, and hooks of two nodes that do the same on a value;
- schemas of the same outline: what they declare, require and leave out is the same;
- agreement of the walks over members, given that of the visits of children;
- agreement of the visits of a node, given that of its parts and hooks.

Does not own: which changes of a schema keep its outline (`Proofs.Validation.Relaxation`).
-/

namespace ParamSchema

/-! ## Verdicts -/

/-- A second verdict agrees with a first one when it is the same, or when the first is a failure
that is excused. -/
def Verdict.Agrees {α : Type} (excused : Failure → Prop) (first second : Verdict α) : Prop :=
  second = first ∨ ∃ error, first = .error error ∧ excused error.failure

namespace Verdict.Agrees

variable {α β : Type} {excused : Failure → Prop} {first second : Verdict α}

theorem refl (verdict : Verdict α) : Verdict.Agrees excused verdict verdict :=
  .inl rfl

theorem of_excused {path : Path} {failure : Failure} (isExcused : excused failure) :
    Verdict.Agrees excused (.error ⟨path, failure⟩) second :=
  .inr ⟨⟨path, failure⟩, rfl, isExcused⟩

/-- An excused failure ends a sequence; after any other verdict both sequences go on alike. -/
theorem bind {next later : α → Verdict β} (agrees : Verdict.Agrees excused first second)
    (rest : ∀ value, first = .ok value → Verdict.Agrees excused (next value) (later value)) :
    Verdict.Agrees excused (first.bind next) (second.bind later) := by
  rcases agrees with rfl | ⟨error, rfl, isExcused⟩
  · cases second with
    | error error => exact refl _
    | ok value => exact rest value rfl
  · exact .inr ⟨error, rfl, isExcused⟩

theorem map (agrees : Verdict.Agrees excused first second) (function : α → β) :
    Verdict.Agrees excused (first.map function) (second.map function) := by
  rcases agrees with rfl | ⟨error, rfl, isExcused⟩
  · exact refl _
  · exact .inr ⟨error, rfl, isExcused⟩

/-- Where no failure is excused the verdicts are the same. -/
theorem eq (agrees : Verdict.Agrees (fun _ => False) first second) : second = first := by
  rcases agrees with same | ⟨error, failed, never⟩
  · exact same
  · exact never.elim

end Verdict.Agrees

/-! ## Nodes of the same rules -/

/-- Two nodes of one type have the same options, but for their hooks. -/
structure Node.SameRules (node other : Node) : Prop where
  type : other.type = node.type
  optional : other.options.optional = node.options.optional
  allowNil : other.options.allowNil = node.options.allowNil
  allowBlank : other.options.allowBlank = node.options.allowBlank
  coerce : other.options.coerce = node.options.coerce
  allowNonScalars : other.options.allowNonScalars = node.options.allowNonScalars
  inclusion : other.options.inclusion = node.options.inclusion

namespace Node.SameRules

variable {node other : Node} (rules : node.SameRules other)

include rules

theorem skips_eq (value : Value) : other.skips value = node.skips value := by
  rw [skips, skips, rules.optional, rules.allowBlank]

theorem isRequired_eq : other.isRequired = node.isRequired := by
  rw [isRequired, isRequired, rules.optional]

theorem acceptsNil_eq : other.acceptsNil = node.acceptsNil := by
  rw [acceptsNil, acceptsNil, rules.type, rules.optional, rules.allowNil]

theorem conform_eq (observed : TypeName) (input : Value) :
    other.conform observed input = node.conform observed input := by
  rw [conform, conform, rules.type, rules.coerce]

theorem checkMember_eq (container : TypeName) (limit depth : Nat) (value : Value) (path : Path) :
    other.checkMember container limit depth value path =
      node.checkMember container limit depth value path := by
  rw [checkMember, checkMember, rules.allowNonScalars]

theorem includes_eq (value : Value) : other.includes value = node.includes value := by
  rw [includes, includes, rules.inclusion]

end Node.SameRules

/-! ## Hooks -/

/-- Two nodes treat a value alike in their hooks when they include it alike, check it alike if it is
included, and transform it alike if the check accepts it. -/
theorem Node.applyHooks_congr {node other : Node} {value : Value}
    (included : other.includes value = node.includes value)
    (checked : node.includes value = true → other.verdict value = node.verdict value)
    (transformed : node.includes value = true → node.verdict value = .ok () →
      other.transformed value = node.transformed value) (path : Path) :
    other.applyHooks path value = node.applyHooks path value := by
  unfold applyHooks
  rw [included]
  by_cases isIncluded : node.includes value
  · rw [if_pos isIncluded, if_pos isIncluded, checked isIncluded]
    cases accepted : node.verdict value with
    | error message => rfl
    | ok _ => simp only [transformed isIncluded accepted]
  · rw [if_neg isIncluded, if_neg isIncluded]

namespace Schema

/-! ## Schemas of the same outline -/

/-- At every node both schemas have the same type and children, and leave out the same values. -/
structure SameOutline (schema other : Schema) : Prop where
  type : ∀ id, (other.node id).type = (schema.node id).type
  children : ∀ id, (other.node id).children = (schema.node id).children
  optional : ∀ id, (other.node id).options.optional = (schema.node id).options.optional
  allowBlank : ∀ id, (other.node id).options.allowBlank = (schema.node id).options.allowBlank

/-- A schema compares to another when they have the same outline, and what only one of them refuses
as undeclared is refused by the first one and excused. -/
structure Comparable (excused : Failure → Prop) (schema other : Schema) : Prop extends
    SameOutline schema other where
  strictness : other.strict = schema.strict ∨
    (other.strict = false ∧ (∀ key, excused (.keyNotAllowed key)) ∧
      ∀ index, excused (.indexNotAllowed index))

variable {schema other : Schema}

namespace SameOutline

variable (outline : schema.SameOutline other)

include outline

theorem skips_eq (id : NodeId) (value : Value) :
    (other.node id).skips value = (schema.node id).skips value := by
  simp only [Node.skips, outline.optional, outline.allowBlank]

theorem isRequired_eq (id : NodeId) : (other.node id).isRequired = (schema.node id).isRequired := by
  simp only [Node.isRequired, outline.optional]

theorem missingKey?_eq (fields : List (String × NodeId)) (entries : List (String × Value)) :
    other.missingKey? fields entries = schema.missingKey? fields entries := by
  have sameField : other.fieldMissing entries = schema.fieldMissing entries := by
    funext key id
    simp only [fieldMissing, outline.isRequired_eq, outline.skips_eq]
  simp only [missingKey?, sameField]

theorem itemMissing_eq (items : List NodeId) (elements : List Value) :
    other.itemMissing items elements = schema.itemMissing items elements := by
  induction items generalizing elements with
  | nil => rfl
  | cons id ids inductionHypothesis =>
      cases elements with
      | nil => simp only [itemMissing, outline.isRequired_eq, inductionHypothesis]
      | cons value rest =>
          simp only [itemMissing, outline.isRequired_eq, outline.skips_eq, inductionHypothesis]

end SameOutline

/-! ## Members -/

section Members

variable {excused : Failure → Prop} {visit later : Visitor} {path : Path}

theorem checkEntries_agrees {node counterpart : Node} {limit wider depth : Nat}
    (members : ∀ value place, Verdict.Agrees excused
      (node.checkMember .object limit depth value place)
      (counterpart.checkMember .object wider depth value place))
    (entries : List (String × Value)) :
    Verdict.Agrees excused (node.checkEntries limit depth path entries)
      (counterpart.checkEntries wider depth path entries) := by
  induction entries with
  | nil => exact .refl _
  | cons entry rest inductionHypothesis =>
      obtain ⟨key, value⟩ := entry
      rw [Node.checkEntries_cons, Node.checkEntries_cons]
      exact (members _ _).bind fun _ _ => inductionHypothesis

theorem checkElements_agrees {node counterpart : Node} {limit wider depth : Nat}
    (members : ∀ value place, Verdict.Agrees excused
      (node.checkMember .array limit depth value place)
      (counterpart.checkMember .array wider depth value place))
    (index : Nat) (elements : List Value) :
    Verdict.Agrees excused (node.checkElements limit depth path index elements)
      (counterpart.checkElements wider depth path index elements) := by
  induction elements generalizing index with
  | nil => exact .refl _
  | cons value rest inductionHypothesis =>
      rw [Node.checkElements_cons, Node.checkElements_cons]
      exact (members _ _).bind fun _ _ => inductionHypothesis (index + 1)

variable (comparable : schema.Comparable excused other)
  (visits : ∀ id value place, Verdict.Agrees excused (visit id value place) (later id value place))

include comparable

/-- What is refused as undeclared is refused in both runs, or excused. -/
theorem refusal_agrees {α : Type} {place : Path} {failure : Failure}
    {onward alternative : Verdict α}
    (undeclared : (∃ key, failure = .keyNotAllowed key) ∨
      ∃ index, failure = .indexNotAllowed index)
    (agrees : Verdict.Agrees excused onward alternative) :
    Verdict.Agrees excused (if schema.strict then .error ⟨place, failure⟩ else onward)
      (if other.strict then .error ⟨place, failure⟩ else alternative) := by
  rcases comparable.strictness with same | ⟨isOpen, excusedKey, excusedIndex⟩
  · rw [same]
    split
    · exact .refl _
    · exact agrees
  · rw [isOpen]
    split
    · rcases undeclared with ⟨key, rfl⟩ | ⟨index, rfl⟩
      · exact .of_excused (excusedKey key)
      · exact .of_excused (excusedIndex index)
    · exact agrees

include visits

theorem visitEntries_agrees (fields : List (String × NodeId)) (entries : List (String × Value)) :
    Verdict.Agrees excused (schema.visitEntries visit fields path entries)
      (other.visitEntries later fields path entries) := by
  induction entries with
  | nil => exact .refl _
  | cons entry rest inductionHypothesis =>
      obtain ⟨key, value⟩ := entry
      cases declared : fields.lookup key with
      | none =>
          rw [visitEntries_undeclared declared, visitEntries_undeclared declared]
          exact refusal_agrees comparable (.inl ⟨key, rfl⟩) inductionHypothesis
      | some id =>
          rw [visitEntries_declared declared, visitEntries_declared declared, comparable.skips_eq]
          split
          · exact inductionHypothesis
          · exact (visits id value _).bind fun _ _ => inductionHypothesis.map _

theorem visitItems_agrees (index : Nat) (items : List NodeId) (elements : List Value) :
    Verdict.Agrees excused (schema.visitItems visit path index items elements)
      (other.visitItems later path index items elements) := by
  induction elements generalizing index items with
  | nil =>
      rw [visitItems, visitItems]
      exact .refl _
  | cons value rest inductionHypothesis =>
      cases items with
      | nil =>
          rw [visitItems_undeclared, visitItems_undeclared]
          exact refusal_agrees comparable (.inr ⟨index, rfl⟩) (inductionHypothesis (index + 1) [])
      | cons id ids =>
          have restAgrees := inductionHypothesis (index + 1) ids
          rw [visitItems_declared, visitItems_declared, comparable.skips_eq]
          split
          · exact restAgrees.map _
          · exact (visits id value _).bind fun _ _ => restAgrees.map _

theorem visitElements_agrees (template : NodeId) (index : Nat) (elements : List Value) :
    Verdict.Agrees excused (schema.visitElements visit template path index elements)
      (other.visitElements later template path index elements) := by
  induction elements generalizing index with
  | nil => exact .refl _
  | cons value rest inductionHypothesis =>
      have restAgrees := inductionHypothesis (index + 1)
      rw [visitElements_cons, visitElements_cons, comparable.skips_eq]
      split
      · exact restAgrees
      · exact (visits template value _).bind fun _ _ => restAgrees.map _

/-- Parts agree where the visits of children and the members without declarations do. -/
theorem visitParts_agrees {limit wider depth : Nat} {id : NodeId}
    (members : ∀ container value place, Verdict.Agrees excused
      ((schema.node id).checkMember container limit (depth + 1) value place)
      ((other.node id).checkMember container wider (depth + 1) value place))
    (value : Value) :
    Verdict.Agrees excused (schema.visitParts limit depth visit (schema.node id) value path)
      (other.visitParts wider depth later (other.node id) value path) := by
  unfold visitParts
  rw [comparable.children, comparable.type]
  split
  · exact (checkEntries_agrees (members .object) _).map _
  · unfold visitMap
    rw [comparable.missingKey?_eq]
    split
    · exact .refl _
    · exact (visitEntries_agrees comparable visits _ _).map _
  · exact (checkElements_agrees (members .array) 0 _).map _
  · unfold visitSeq
    rw [comparable.itemMissing_eq]
    split
    · exact .refl _
    · exact (visitItems_agrees comparable visits 0 _ _).map _
  · exact (visitElements_agrees comparable visits _ 0 _).map _
  · exact .refl _
  · exact .refl _

end Members

/-! ## Visits -/

/-- Two visits of a node agree when its treatment of nil, its conversion, its parts and its hooks
do. The hooks are compared only on what the first visit hands to them. -/
theorem visit_agrees_of_parts {excused : Failure → Prop} (outline : schema.SameOutline other)
    {limit wider depth : Nat} {id : NodeId} {input : Value} {path : Path} (inLimit : depth ≤ limit)
    (inWider : depth ≤ wider)
    (nil : (other.node id).acceptsNil = (schema.node id).acceptsNil ∨
      ((other.node id).acceptsNil = true ∧ excused .nil))
    (conforms : ∀ observed, (other.node id).conform observed input =
        (schema.node id).conform observed input ∨
      ∃ failure, (schema.node id).conform observed input = .error failure ∧ excused failure)
    (parts : ∀ value, Verdict.Agrees excused
      (schema.visitParts limit depth (schema.visit limit (depth + 1)) (schema.node id) value path)
      (other.visitParts wider depth (other.visit wider (depth + 1)) (other.node id) value path))
    (hooks : ∀ observed value output, TypeName.classify input = some observed → input ≠ .nil →
      (schema.node id).conform observed input = .ok value →
      schema.visitParts limit depth (schema.visit limit (depth + 1)) (schema.node id) value path =
        .ok output →
      Verdict.Agrees excused ((schema.node id).applyHooks path output)
        ((other.node id).applyHooks path output)) :
    Verdict.Agrees excused (schema.visit limit depth id input path)
      (other.visit wider depth id input path) := by
  by_cases isNil : input = .nil
  · subst isNil
    rw [visit_of_nil inLimit, visit_of_nil inWider]
    rcases nil with same | ⟨accepted, isExcused⟩
    · rw [same]
      exact .refl _
    · rw [if_pos accepted]
      split
      · exact .refl _
      · exact .of_excused isExcused
  · cases ofType : TypeName.classify input with
    | none =>
        rw [visit_unclassified inLimit ofType, visit_unclassified inWider ofType, outline.type]
        exact .refl _
    | some observed =>
        rw [visit_classified inLimit ofType isNil, visit_classified inWider ofType isNil]
        rcases conforms observed with same | ⟨failure, failed, isExcused⟩
        · rw [same]
          cases converted : (schema.node id).conform observed input with
          | error failure => exact .refl _
          | ok value =>
              exact (parts value).bind fun output rebuilt =>
                hooks observed value output ofType isNil converted rebuilt
        · rw [failed]
          exact .of_excused isExcused

end Schema

end ParamSchema
