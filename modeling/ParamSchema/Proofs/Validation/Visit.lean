import ParamSchema.Proofs.Schema.Coherence
import ParamSchema.Proofs.Schema.Position
import ParamSchema.Proofs.TypeName.Coercion
import ParamSchema.Proofs.Validation.Members

/-!
Contract: when the visit of a node succeeds, and how its parts go into the result.

Owns:
- the value that a node goes on with, and its type;
- rebuilding a value from its parts, one rule for each kind of children;
- where the parts of a result come from, and where the parts of an input go to;
- the visit of a node as one step, for schemas without transforms.

Does not own: what follows for whole results (`Proofs.Validation.Conformance`).
-/

namespace ParamSchema

theorem Value.isNil_eq_true_iff {value : Value} : value.isNil = true ↔ value = .nil := by
  cases value with
  | nil => exact ⟨fun _ => rfl, fun _ => rfl⟩
  | boolean | integer | float | text | seq | map => simp [isNil]

/-! ## Types -/

namespace TypeName

theorem classify_eq_nil_iff {value : Value} : classify value = some .nil ↔ value = .nil := by
  cases value with
  | float number => simp [classify]
  | nil | boolean | integer | text | seq | map => simp [classify]

theorem exists_map_of_classify {value : Value} (ofType : classify value = some .object) :
    ∃ entries, value = .map entries := by
  cases value with
  | map entries => exact ⟨entries, rfl⟩
  | float number => simp [classify] at ofType
  | nil | boolean | integer | text | seq => cases ofType

theorem exists_seq_of_classify {value : Value} (ofType : classify value = some .array) :
    ∃ elements, value = .seq elements := by
  cases value with
  | seq elements => exact ⟨elements, rfl⟩
  | float number => simp [classify] at ofType
  | nil | boolean | integer | text | map => cases ofType

theorem exists_integer_of_classify {value : Value} (ofType : classify value = some .integer) :
    ∃ number, value = .integer number := by
  cases value with
  | integer number => exact ⟨number, rfl⟩
  | float number => simp [classify] at ofType
  | nil | boolean | text | seq | map => cases ofType

/-- Conversion leads from scalars to scalars. -/
theorem isScalar_of_canCoerceFrom {type observed : TypeName}
    (allowed : type.canCoerceFrom observed = true) :
    type.isScalar = true ∧ observed.isScalar = true := by
  revert allowed
  cases type <;> cases observed <;> decide

end TypeName

/-! ## One node -/

namespace Node

variable {node : Node} {input value : Value} {observed : TypeName} {path : Path}

/-- What a node goes on with is of its type. It is the input itself, or comes from a scalar by
conversion and is then not blank. -/
theorem conform_eq_ok (ofType : TypeName.classify input = some observed) (notNil : input ≠ .nil)
    (conforms : node.conform observed input = .ok value) :
    TypeName.classify value = some node.type ∧
      (value = input ∨
        (input.isScalar = true ∧ value.isScalar = true ∧ value.isBlank = false)) := by
  unfold conform at conforms
  by_cases mismatched : node.type.mismatches observed
  · rw [if_pos mismatched] at conforms
    by_cases convertible : node.options.coerce && node.type.canCoerceFrom observed
    · rw [if_pos convertible] at conforms
      rw [Bool.and_eq_true] at convertible
      obtain ⟨typeScalar, observedScalar⟩ := TypeName.isScalar_of_canCoerceFrom convertible.2
      cases converted : node.type.coerce input with
      | error error =>
          rw [converted] at conforms
          cases conforms
      | ok result =>
          rw [converted] at conforms
          cases conforms
          obtain ⟨reached, notBlank⟩ := TypeName.reached_of_coerce converted
          refine ⟨reached, .inr ⟨?_, ?_, notBlank⟩⟩
          · rw [TypeName.isScalar_of_classify ofType, observedScalar]
          · rw [TypeName.isScalar_of_classify reached, typeScalar]
    · rw [if_neg convertible] at conforms
      cases conforms
  · rw [if_neg mismatched] at conforms
    cases conforms
    refine ⟨?_, .inl rfl⟩
    have observedNotNil : observed ≠ .nil := by
      rintro rfl
      exact notNil (TypeName.classify_eq_nil_iff.mp ofType)
    unfold TypeName.mismatches at mismatched
    simp only [Bool.and_eq_true, bne_iff_ne, ne_eq, not_and, not_not] at mismatched
    by_contra different
    exact observedNotNil (mismatched fun same => different (by rw [ofType, same]))

theorem conform_self : node.conform node.type value = .ok value := by
  simp [conform, TypeName.mismatches]

/-- Without a transform the hooks give back the value they accept. -/
theorem applyHooks_eq_ok_iff (plain : node.options.transform = none) {result : Value} :
    node.applyHooks path value = .ok result ↔
      node.includes value = true ∧ node.verdict value = .ok () ∧ result = value := by
  have same : node.transformed value = value := by
    unfold transformed
    rw [plain]
  unfold applyHooks
  by_cases included : node.includes value
  · rw [if_pos included]
    cases outcome : node.verdict value with
    | error message => simp
    | ok accepted => simp [included, same, eq_comm]
  · simp [included]

end Node

namespace Schema

/-! ## Rebuilding a value -/

section Rebuilding

/-- How a value is rebuilt from its parts beneath a node at some depth: a scalar and a container
without declarations stay as they are, and every other container has its declared parts visited. -/
inductive Rebuilds (schema : Schema) (limit depth : Nat) (visit : Visitor) (id : NodeId)
    (path : Path) : Value → Value → Prop where
  | leaf {value : Value} (declared : (schema.node id).children = .scalar)
      (scalar : value.isScalar = true) : Rebuilds schema limit depth visit id path value value
  | openMap {entries : List (String × Value)} (declared : (schema.node id).children = .keyed [])
      (accepts : ∀ entry ∈ entries, (schema.node id).AcceptsMember limit (depth + 1) entry.2) :
      Rebuilds schema limit depth visit id path (.map entries) (.map entries)
  | openSeq {elements : List Value} (declared : (schema.node id).children = .positional [])
      (accepts : ∀ element ∈ elements, (schema.node id).AcceptsMember limit (depth + 1) element) :
      Rebuilds schema limit depth visit id path (.seq elements) (.seq elements)
  | fields {fields : List (String × NodeId)} {entries results : List (String × Value)}
      (declared : (schema.node id).children = .keyed fields) (nonempty : fields ≠ [])
      (present : schema.missingKey? fields entries = none)
      (walked : schema.visitEntries visit fields path entries = .ok results) :
      Rebuilds schema limit depth visit id path (.map entries) (.map results)
  | items {items : List NodeId} {elements results : List Value}
      (declared : (schema.node id).children = .positional items) (nonempty : items ≠ [])
      (present : schema.itemMissing items elements = false)
      (walked : schema.visitItems visit path 0 items elements = .ok results) :
      Rebuilds schema limit depth visit id path (.seq elements) (.seq results)
  | elements {template : NodeId} {elements results : List Value}
      (declared : (schema.node id).children = .homogeneous template)
      (walked : schema.visitElements visit template path 0 elements = .ok results) :
      Rebuilds schema limit depth visit id path (.seq elements) (.seq results)

variable {schema : Schema} {limit depth : Nat} {visit : Visitor} {id : NodeId} {path : Path}
  {value output : Value}

theorem visitParts_eq_ok_iff :
    schema.visitParts limit depth visit (schema.node id) value path = .ok output ↔
      schema.Rebuilds limit depth visit id path value output := by
  constructor
  · intro rebuilt
    unfold visitParts at rebuilt
    split at rebuilt
    case h_1 entries declared =>
      obtain ⟨⟨⟩, checked, rfl⟩ := Except.map_eq_ok_iff.mp rebuilt
      exact .openMap declared (Node.checkEntries_eq_ok_iff.mp checked)
    case h_2 fields entries nonempty declared =>
      unfold visitMap at rebuilt
      split at rebuilt
      · cases rebuilt
      · next present =>
          obtain ⟨results, walked, rfl⟩ := Except.map_eq_ok_iff.mp rebuilt
          exact .fields declared (fun isNil => nonempty isNil) present walked
    case h_3 elements declared =>
      obtain ⟨⟨⟩, checked, rfl⟩ := Except.map_eq_ok_iff.mp rebuilt
      exact .openSeq declared (Node.checkElements_eq_ok_iff.mp checked)
    case h_4 items elements nonempty declared =>
      unfold visitSeq at rebuilt
      split at rebuilt
      · cases rebuilt
      · next present =>
          obtain ⟨results, walked, rfl⟩ := Except.map_eq_ok_iff.mp rebuilt
          exact .items declared (fun isNil => nonempty isNil) (by simpa using present) walked
    case h_5 template elements declared =>
      obtain ⟨results, walked, rfl⟩ := Except.map_eq_ok_iff.mp rebuilt
      exact .elements declared walked
    case h_6 leaf declared =>
      split at rebuilt
      · next scalar =>
          cases rebuilt
          exact .leaf declared scalar
      · cases rebuilt
    case h_7 => cases rebuilt
  · intro rebuilds
    unfold visitParts
    cases rebuilds with
    | leaf declared scalar =>
        rw [declared]
        cases value <;> first | rfl | cases scalar
    | openMap declared accepts =>
        rw [declared]
        exact Except.map_eq_ok_iff.mpr ⟨(), Node.checkEntries_eq_ok_iff.mpr accepts, rfl⟩
    | openSeq declared accepts =>
        rw [declared]
        exact Except.map_eq_ok_iff.mpr ⟨(), Node.checkElements_eq_ok_iff.mpr accepts, rfl⟩
    | fields declared nonempty present walked =>
        obtain ⟨field, rest, rfl⟩ := List.exists_cons_of_ne_nil nonempty
        rw [declared]
        dsimp only [visitMap]
        rw [present]
        exact Except.map_eq_ok_iff.mpr ⟨_, walked, rfl⟩
    | items declared nonempty present walked =>
        obtain ⟨item, rest, rfl⟩ := List.exists_cons_of_ne_nil nonempty
        rw [declared]
        dsimp only [visitSeq]
        rw [present]
        exact Except.map_eq_ok_iff.mpr ⟨_, walked, rfl⟩
    | elements declared walked =>
        rw [declared]
        exact Except.map_eq_ok_iff.mpr ⟨_, walked, rfl⟩

/-! ### Rebuilding by the kind of children -/

section Kinds

variable (rebuilds : schema.Rebuilds limit depth visit id path value output)

include rebuilds

theorem Rebuilds.of_keyed {fields : List (String × NodeId)}
    (declared : (schema.node id).children = .keyed fields) (nonempty : fields ≠ []) :
    ∃ entries results, value = .map entries ∧ output = .map results ∧
      schema.missingKey? fields entries = none ∧
        schema.visitEntries visit fields path entries = .ok results := by
  cases rebuilds with
  | fields same _ present walked =>
      cases declared.symm.trans same
      exact ⟨_, _, rfl, rfl, present, walked⟩
  | openMap same _ =>
      cases declared.symm.trans same
      exact absurd rfl nonempty
  | leaf same | openSeq same | items same | elements same => cases declared.symm.trans same

theorem Rebuilds.of_positional {items : List NodeId}
    (declared : (schema.node id).children = .positional items) (nonempty : items ≠ []) :
    ∃ elements results, value = .seq elements ∧ output = .seq results ∧
      schema.itemMissing items elements = false ∧
        schema.visitItems visit path 0 items elements = .ok results := by
  cases rebuilds with
  | items same _ present walked =>
      cases declared.symm.trans same
      exact ⟨_, _, rfl, rfl, present, walked⟩
  | openSeq same _ =>
      cases declared.symm.trans same
      exact absurd rfl nonempty
  | leaf same | openMap same | fields same | elements same => cases declared.symm.trans same

theorem Rebuilds.of_homogeneous {template : NodeId}
    (declared : (schema.node id).children = .homogeneous template) :
    ∃ elements results, value = .seq elements ∧ output = .seq results ∧
      schema.visitElements visit template path 0 elements = .ok results := by
  cases rebuilds with
  | elements same walked =>
      cases declared.symm.trans same
      exact ⟨_, _, rfl, rfl, walked⟩
  | leaf same | openMap same | openSeq same | fields same | items same =>
      cases declared.symm.trans same

theorem Rebuilds.of_isUndeclared (undeclared : (schema.node id).children.isUndeclared = true) :
    output = value ∧ ∀ member ∈ value.members,
      (schema.node id).AcceptsMember limit (depth + 1) member := by
  cases rebuilds with
  | leaf declared =>
      rw [declared] at undeclared
      cases undeclared
  | openMap declared accepts =>
      refine ⟨rfl, fun member isMember => ?_⟩
      obtain ⟨entry, inEntries, rfl⟩ := List.mem_map.mp isMember
      exact accepts entry inEntries
  | openSeq declared accepts => exact ⟨rfl, accepts⟩
  | fields declared nonempty | items declared nonempty =>
      rw [declared] at undeclared
      exact absurd (List.isEmpty_iff.mp undeclared) nonempty
  | elements declared =>
      rw [declared] at undeclared
      cases undeclared

end Kinds

/-- A part of the result holds the place of an optional item, or comes from the visit of a part of
the input. -/
theorem Rebuilds.origin (rebuilds : schema.Rebuilds limit depth visit id path value output)
    {segment : Segment} {child : NodeId} {part : Value}
    (isPart : schema.DeclaredPart id output segment child part) :
    schema.Placeholder id child part ∨
      ∃ origin source, schema.VisitedPart id value origin child source ∧
        visit child source (path ++ [origin]) = .ok part := by
  cases rebuilds with
  | leaf declared _ => exact absurd isPart (not_declaredPart_of_scalar declared)
  | openMap declared _ | openSeq declared _ =>
      exact absurd isPart (not_declaredPart_of_isUndeclared (by rw [declared]; rfl))
  | fields declared nonempty present walked =>
      obtain ⟨others, key, same, -, found, member⟩ := isPart.of_map
      cases declared.symm.trans same
      obtain ⟨node, source, lookedUp, inEntries, kept, visited⟩ := visitEntries_origin walked member
      cases found.symm.trans lookedUp
      exact .inr ⟨_, source, ⟨declaredPart_field declared found inEntries, kept⟩, visited⟩
  | items declared nonempty present walked =>
      obtain ⟨index, -, held, ⟨others, same, found⟩ | same⟩ := isPart.of_seq
      · cases declared.symm.trans same
        obtain ⟨node, source, isItem, isElement, becomes⟩ := visitItems_origin walked held
        cases found.symm.trans isItem
        rcases becomes with ⟨skipped, rfl⟩ | ⟨kept, visited⟩
        · exact .inl ⟨rfl, optional_of_skipped present isItem isElement skipped, _, declared⟩
        · exact .inr ⟨_, source, ⟨declaredPart_item declared isItem isElement, kept⟩, visited⟩
      · cases declared.symm.trans same
  | elements declared walked =>
      obtain ⟨index, -, held, ⟨others, same, found⟩ | same⟩ := isPart.of_seq
      · cases declared.symm.trans same
      · cases declared.symm.trans same
        obtain ⟨place, source, isElement, kept, visited⟩ := visitElements_origin walked held
        exact .inr ⟨_, source, ⟨declaredPart_element declared isElement, kept⟩, visited⟩

/-- Every part of the input that is visited gives a part of the result. -/
theorem Rebuilds.image (rebuilds : schema.Rebuilds limit depth visit id path value output)
    {segment : Segment} {child : NodeId} {source : Value}
    (isPart : schema.VisitedPart id value segment child source) :
    ∃ target part, schema.DeclaredPart id output target child part ∧
      visit child source (path ++ [segment]) = .ok part := by
  obtain ⟨isDeclared, kept⟩ := isPart
  cases rebuilds with
  | leaf declared _ => exact absurd isDeclared (not_declaredPart_of_scalar declared)
  | openMap declared _ | openSeq declared _ =>
      exact absurd isDeclared (not_declaredPart_of_isUndeclared (by rw [declared]; rfl))
  | fields declared nonempty present walked =>
      obtain ⟨others, key, same, rfl, found, member⟩ := isDeclared.of_map
      cases declared.symm.trans same
      obtain ⟨part, inResults, visited⟩ := visitEntries_image walked found member kept
      exact ⟨_, part, declaredPart_field declared found inResults, visited⟩
  | items declared nonempty present walked =>
      obtain ⟨index, rfl, held, ⟨others, same, found⟩ | same⟩ := isDeclared.of_seq
      · cases declared.symm.trans same
        obtain ⟨part, inResults, becomes⟩ := visitItems_image walked found held
        rcases becomes with ⟨skipped, -⟩ | ⟨-, visited⟩
        · rw [kept] at skipped
          cases skipped
        · exact ⟨_, part, declaredPart_item declared found inResults, visited⟩
      · cases declared.symm.trans same
  | elements declared walked =>
      obtain ⟨index, rfl, held, ⟨others, same, found⟩ | same⟩ := isDeclared.of_seq
      · cases declared.symm.trans same
      · cases declared.symm.trans same
        obtain ⟨place, part, inResults, visited⟩ := visitElements_image walked held kept
        exact ⟨_, part, declaredPart_element declared inResults, visited⟩

end Rebuilding

/-! ## The visit as one step -/

/-- No node of a plain schema has a transform. -/
def Plain (schema : Schema) : Prop :=
  ∀ id, (schema.node id).options.transform = none

section Visiting

/-- What the visit of a node does with an input at some depth: nil stays nil, and any other input
is converted where that is needed, rebuilt, and accepted by the hooks. -/
inductive VisitStep (schema : Schema) (limit depth : Nat) (id : NodeId) (path : Path) :
    Value → Value → Prop where
  | nil (accepts : (schema.node id).acceptsNil = true) :
      VisitStep schema limit depth id path .nil .nil
  | rebuilt {input value output : Value} (notNil : input ≠ .nil)
      (ofType : TypeName.classify value = some (schema.node id).type)
      (source : value = input ∨
        (input.isScalar = true ∧ value.isScalar = true ∧ value.isBlank = false))
      (rebuilds : schema.Rebuilds limit depth (schema.visit limit (depth + 1)) id path value output)
      (included : (schema.node id).includes output = true)
      (passes : (schema.node id).verdict output = .ok ()) :
      VisitStep schema limit depth id path input output

variable {schema : Schema} {limit depth : Nat} {id : NodeId} {path : Path} {input output : Value}

theorem visitStep_of_visit (plain : schema.Plain)
    (visited : schema.visit limit depth id input path = .ok output) :
    depth ≤ limit ∧ schema.VisitStep limit depth id path input output := by
  rw [visit] at visited
  by_cases tooDeep : limit < depth
  · rw [if_pos tooDeep] at visited
    cases visited
  · rw [if_neg tooDeep] at visited
    refine ⟨Nat.le_of_not_lt tooDeep, ?_⟩
    dsimp only at visited
    cases ofType : TypeName.classify input with
    | none =>
        rw [ofType] at visited
        cases visited
    | some observed =>
        rw [ofType] at visited
        dsimp only at visited
        by_cases isNil : input.isNil
        · obtain rfl := Value.isNil_eq_true_iff.mp isNil
          rw [if_pos isNil] at visited
          by_cases accepts : (schema.node id).acceptsNil
          · rw [if_pos accepts] at visited
            cases visited
            exact .nil accepts
          · rw [if_neg accepts] at visited
            cases visited
        · have notNil : input ≠ .nil := fun same => isNil (Value.isNil_eq_true_iff.mpr same)
          rw [if_neg isNil] at visited
          cases conforms : (schema.node id).conform observed input with
          | error failure =>
              rw [conforms] at visited
              cases visited
          | ok value =>
              rw [conforms] at visited
              dsimp only at visited
              cases rebuilt : schema.visitParts limit depth (schema.visit limit (depth + 1))
                  (schema.node id) value path with
              | error error =>
                  rw [rebuilt] at visited
                  cases visited
              | ok result =>
                  rw [rebuilt] at visited
                  obtain ⟨included, passes, rfl⟩ :=
                    (Node.applyHooks_eq_ok_iff (plain id)).mp visited
                  obtain ⟨valueOfType, source⟩ := Node.conform_eq_ok ofType notNil conforms
                  exact .rebuilt notNil valueOfType source (visitParts_eq_ok_iff.mp rebuilt)
                    included passes

/-- Rebuilding keeps the type. -/
theorem Rebuilds.classify_eq {visit : Visitor}
    (rebuilds : schema.Rebuilds limit depth visit id path input output) :
    TypeName.classify output = TypeName.classify input := by
  cases rebuilds with
  | leaf | openMap | openSeq | fields | items | elements => rfl

/-- Containers are neither converted nor made by conversion. -/
theorem VisitStep.rebuilds_of_container (step : schema.VisitStep limit depth id path input output)
    (container : input.isScalar = false ∨ output.isScalar = false) :
    schema.Rebuilds limit depth (schema.visit limit (depth + 1)) id path input output := by
  cases step with
  | nil accepts => rcases container with container | container <;> cases container
  | rebuilt notNil ofType source rebuilds included passes =>
      rcases source with rfl | ⟨inputScalar, valueScalar, -⟩
      · exact rebuilds
      · have outputScalar : output.isScalar = true := by
          rw [TypeName.isScalar_of_classify (rebuilds.classify_eq.trans ofType),
            ← TypeName.isScalar_of_classify ofType, valueScalar]
        rw [inputScalar, outputScalar] at container
        rcases container with container | container <;> cases container

theorem VisitStep.origin (step : schema.VisitStep limit depth id path input output)
    {segment : Segment} {child : NodeId} {part : Value}
    (isPart : schema.DeclaredPart id output segment child part) :
    schema.Placeholder id child part ∨
      ∃ origin source, schema.VisitedPart id input origin child source ∧
        schema.visit limit (depth + 1) child source (path ++ [origin]) = .ok part :=
  (step.rebuilds_of_container (.inr isPart.within.isScalar_eq_false)).origin isPart

theorem VisitStep.image (step : schema.VisitStep limit depth id path input output)
    {segment : Segment} {child : NodeId} {source : Value}
    (isPart : schema.VisitedPart id input segment child source) :
    ∃ target part, schema.DeclaredPart id output target child part ∧
      schema.visit limit (depth + 1) child source (path ++ [segment]) = .ok part :=
  (step.rebuilds_of_container (.inl isPart.within.isScalar_eq_false)).image isPart

/-- Only nil becomes nil. -/
theorem VisitStep.input_eq_nil (step : schema.VisitStep limit depth id path input .nil) :
    input = .nil := by
  cases step with
  | nil => rfl
  | rebuilt notNil ofType source rebuilds included passes =>
      cases rebuilds with
      | leaf =>
          rcases source with same | ⟨-, -, notBlank⟩
          · exact same.symm
          · cases notBlank

/-- What a node did not leave out before the visit it leaves out behind it only where the visit has
emptied a container that must not be blank. -/
theorem VisitStep.emptied (step : schema.VisitStep limit depth id path input output)
    (kept : (schema.node id).skips input = false)
    (skipped : (schema.node id).skips output = true) :
    (schema.node id).options.allowBlank = false ∧ (output = .map [] ∨ output = .seq []) := by
  cases step with
  | nil accepts =>
      rw [kept] at skipped
      cases skipped
  | @rebuilt input value output notNil ofType source rebuilds included passes =>
      have blank : output.isNil = false → (schema.node id).options.allowBlank = false ∧
          output.isBlank = true := by
        intro isNil
        simpa [Node.skips, isNil] using skipped
      cases rebuilds with
      | leaf declared scalar =>
          rcases source with rfl | ⟨-, -, notBlank⟩
          · rw [kept] at skipped
            cases skipped
          · have isNil : output.isNil = false := by cases output <;> first | rfl | cases notBlank
            rw [(blank isNil).2] at notBlank
            cases notBlank
      | openMap | fields =>
          obtain ⟨blankRejected, isBlank⟩ := blank rfl
          exact ⟨blankRejected, .inl (congrArg Value.map (List.isEmpty_iff.mp isBlank))⟩
      | openSeq | items | elements =>
          obtain ⟨blankRejected, isBlank⟩ := blank rfl
          exact ⟨blankRejected, .inr (congrArg Value.seq (List.isEmpty_iff.mp isBlank))⟩

theorem visit_nil (inLimit : depth ≤ limit) (accepts : (schema.node id).acceptsNil = true) :
    schema.visit limit depth id .nil path = .ok .nil := by
  rw [visit, if_neg (Nat.not_lt.mpr inLimit)]
  simp [TypeName.classify, Value.isNil, accepts]

/-- A value of the type of a node needs no conversion. -/
theorem visit_rebuilt (plain : schema.Plain) (inLimit : depth ≤ limit) (notNil : input ≠ .nil)
    (ofType : TypeName.classify input = some (schema.node id).type)
    (rebuilds : schema.Rebuilds limit depth (schema.visit limit (depth + 1)) id path input output)
    (included : (schema.node id).includes output = true)
    (passes : (schema.node id).verdict output = .ok ()) :
    schema.visit limit depth id input path = .ok output := by
  have isNil : input.isNil = false :=
    Bool.eq_false_iff.mpr fun same => notNil (Value.isNil_eq_true_iff.mp same)
  rw [visit, if_neg (Nat.not_lt.mpr inLimit)]
  dsimp only
  rw [ofType]
  dsimp only
  rw [isNil, Node.conform_self]
  dsimp only
  rw [visitParts_eq_ok_iff.mpr rebuilds]
  exact (Node.applyHooks_eq_ok_iff (plain id)).mpr ⟨included, passes, rfl⟩

end Visiting

end Schema

end ParamSchema
