import ParamSchema.Proofs.Validation.Completeness

/-!
Contract: when validation gives its own output back.

Owns:
- where the visited positions of an input lead to in the output;
- inputs that a visit empties;
- the exact conditions, on the output and on the input, for a second pass to change nothing.

Does not own: schemas with transforms.
-/

namespace ParamSchema.Schema

/-! ## From input to output -/

section Images

variable {schema : Schema} {limit : Nat} {id found : NodeId} {input source : Value} {route : Path}

/-- A visited position of the input has a position of the output with the result of its visit. -/
theorem image_of_visited (plain : schema.Plain)
    (descends : schema.Visited id input route found source) :
    ∀ {depth : Nat} {output : Value} {path : Path},
      schema.visit limit depth id input path = .ok output →
      ∃ outputRoute part sourcePath, schema.Position id output outputRoute found part ∧
        outputRoute.length = route.length ∧
          schema.visit limit (depth + route.length) found source sourcePath = .ok part := by
  induction descends with
  | here id value =>
      intro depth output path visited
      exact ⟨[], output, path, .here id output, rfl, visited⟩
  | @beneath id child found value part target segment route first rest inductionHypothesis =>
      intro depth output path visited
      have step := (visitStep_of_visit plain visited).2
      obtain ⟨place, result, isPart, visitedPart⟩ := step.image first
      obtain ⟨outputRoute, deeper, deeperPath, position, sameLength, visitedDeeper⟩ :=
        inductionHypothesis visitedPart
      refine ⟨place :: outputRoute, deeper, deeperPath, .beneath isPart position, ?_, ?_⟩
      · rw [List.length_cons, List.length_cons, sameLength]
      · rw [List.length_cons, ← Nat.add_assoc, Nat.add_right_comm]
        exact visitedDeeper

end Images

/-! ## Emptied containers -/

/-- A value that is not empty, but of which a node leaves nothing: a map all of whose entries are
undeclared or left out, or a list all of whose elements the template leaves out. -/
inductive Empties (schema : Schema) (id : NodeId) : Value → Prop where
  | fields {fields : List (String × NodeId)} {entries : List (String × Value)}
      (declared : (schema.node id).children = .keyed fields) (nonempty : fields ≠ [])
      (held : entries ≠ []) (noneKept : ∀ entry ∈ entries, schema.keeps fields entry = false) :
      Empties schema id (.map entries)
  | elements {template : NodeId} {elements : List Value}
      (declared : (schema.node id).children = .homogeneous template) (held : elements ≠ [])
      (noneKept : ∀ element ∈ elements, (schema.node template).skips element = true) :
      Empties schema id (.seq elements)

section Emptying

variable {schema : Schema} {limit depth : Nat} {id : NodeId} {path : Path} {source part : Value}

/-- The visit of a value that is not blank gives an empty container exactly where it leaves nothing
of the value. -/
theorem VisitStep.empty_iff_empties (step : schema.VisitStep limit depth id path source part)
    (notBlank : source.isBlank = false) :
    (part = .map [] ∨ part = .seq []) ↔ schema.Empties id source := by
  constructor
  · intro isEmpty
    have container : part.isScalar = false := by
      rcases isEmpty with rfl | rfl
      · rfl
      · rfl
    cases step.rebuilds_of_container (.inr container) with
    | leaf declared scalar =>
        rw [container] at scalar
        cases scalar
    | openMap | openSeq =>
        rcases isEmpty with same | same <;> cases same
        cases notBlank
    | fields declared nonempty present walked =>
        rcases isEmpty with same | same <;> cases same
        obtain ⟨-, related⟩ := visitEntries_eq_ok_iff.mp walked
        rw [List.forall₂_nil_right_iff, List.filter_eq_nil_iff] at related
        refine .fields declared nonempty ?_ fun entry member => by simpa using related entry member
        rintro rfl
        cases notBlank
    | @items items elements results declared nonempty present walked =>
        rcases isEmpty with same | same <;> cases same
        have noResults := length_visitItems walked
        rw [List.length_nil] at noResults
        have someItems := List.length_pos_iff.mpr nonempty
        have noElements : elements = [] := List.eq_nil_of_length_eq_zero (by omega)
        subst noElements
        cases notBlank
    | elements declared walked =>
        rcases isEmpty with same | same <;> cases same
        have related := visitElements_eq_ok_iff.mp walked
        rw [List.forall₂_nil_right_iff, List.filter_eq_nil_iff] at related
        refine .elements declared ?_ fun element member => ?_
        · rintro rfl
          cases notBlank
        · obtain ⟨index, held⟩ := List.getElem?_of_mem member
          simpa using related (element, index) (List.mem_zipIdx_iff_getElem?.mpr held)
  · intro empties
    have rebuilds := step.rebuilds_of_container (.inl (by cases empties <;> rfl))
    cases empties with
    | fields declared nonempty held noneKept =>
        obtain ⟨entries, results, same, rfl, -, walked⟩ := rebuilds.of_keyed declared nonempty
        cases same
        obtain ⟨-, related⟩ := visitEntries_eq_ok_iff.mp walked
        rw [List.filter_eq_nil_iff.mpr fun entry member => by simp [noneKept entry member],
          List.forall₂_nil_left_iff] at related
        exact .inl (congrArg Value.map related)
    | elements declared held noneKept =>
        obtain ⟨elements, results, same, rfl, walked⟩ := rebuilds.of_homogeneous declared
        cases same
        have related := visitElements_eq_ok_iff.mp walked
        rw [List.filter_eq_nil_iff.mpr fun element member => by
            simp [noneKept element.1 (List.fst_mem_of_mem_zipIdx member)],
          List.forall₂_nil_left_iff] at related
        exact .inr (congrArg Value.seq related)

end Emptying

/-! ## A second pass -/

/-- No declared position below a value holds an empty container where blanks are not allowed. -/
def NothingEmpty (schema : Schema) (value : Value) : Prop :=
  ∀ path id part, schema.Position root value path id part → path ≠ [] →
    (schema.node id).options.allowBlank = false → part ≠ .map [] ∧ part ≠ .seq []

/-- No position below a value that a walk visits is emptied by it where blanks are not allowed. -/
def NothingEmptied (schema : Schema) (value : Value) : Prop :=
  ∀ path id part, schema.Visited root value path id part → path ≠ [] →
    (schema.node id).options.allowBlank = false → ¬schema.Empties id part

section SecondPass

variable {schema : Schema} {config : EngineConfig} {input output : Value}

/-- An output passes again unchanged exactly when nothing of it would be left out. -/
theorem revalidates_iff_settles (coherent : schema.Coherent) (plain : schema.Plain)
    (accepted : schema.validate config input = .ok output) :
    schema.validate config output = .ok output ↔
      ∀ path id part, schema.Position root output path id part → schema.Settles id part := by
  rw [validate_eq_ok_iff, visit_root_eq_self_iff coherent plain]
  constructor
  · rintro ⟨-, positions⟩ path id part position
    exact (positions path id part position).settles
  · intro settles
    obtain ⟨nilRoot, visited⟩ := validate_eq_ok_iff.mp accepted
    refine ⟨?nil, ?positions⟩
    case nil =>
      rintro rfl
      exact nilRoot (visitStep_of_visit plain visited).2.input_eq_nil
    case positions =>
      intro path id part position
      rcases origin_of_position plain position visited with
        ⟨rfl, optional⟩ | ⟨-, source, sourcePath, -, -, visitedPart⟩
      · exact conformsAt_placeholder optional
      · have step := (visitStep_of_visit plain visitedPart).2
        rw [Nat.zero_add] at step
        exact ⟨step.satisfies coherent, settles path id part position, step.shallow plain⟩

/-- Beside the places of optional items, an output has nothing to leave out but empty containers. -/
theorem settles_iff_nothingEmpty (plain : schema.Plain)
    (accepted : schema.validate config input = .ok output) :
    (∀ path id part, schema.Position root output path id part → schema.Settles id part) ↔
      schema.NothingEmpty output := by
  obtain ⟨-, visited⟩ := validate_eq_ok_iff.mp accepted
  constructor
  · intro settles path id part position below blankRejected
    obtain ⟨parentPath, parent, holder, segment, above, isPart⟩ := position.exists_parent below
    have notBlank : part.isBlank = true → part = .nil := by
      intro isBlank
      have skipped : (schema.node id).skips part = true := by
        simp [Node.skips, blankRejected, isBlank]
      exact (settles parentPath parent holder above segment id part isPart skipped).isNil
    constructor
    · rintro rfl
      cases notBlank rfl
    · rintro rfl
      cases notBlank rfl
  · intro nothingEmpty path id part position segment child target isPart skipped
    rcases origin_of_position plain position visited with
      ⟨rfl, -⟩ | ⟨-, source, sourcePath, -, -, visitedPart⟩
    · cases isPart.within
    · have step := (visitStep_of_visit plain visitedPart).2
      rcases step.origin isPart with
        isPlaceholder | ⟨origin, deeper, isVisited, visitedTarget⟩
      · exact isPlaceholder
      · obtain ⟨blankRejected, isEmpty⟩ :=
          (visitStep_of_visit plain visitedTarget).2.emptied isVisited.kept skipped
        have notEmpty := nothingEmpty _ child target (position.snoc isPart) (by simp) blankRejected
        exact absurd isEmpty (not_or.mpr notEmpty)

/-- The empty containers of an output are those that the walk over the input has emptied. -/
theorem nothingEmpty_iff_nothingEmptied (plain : schema.Plain)
    (accepted : schema.validate config input = .ok output) :
    schema.NothingEmpty output ↔ schema.NothingEmptied input := by
  obtain ⟨-, visited⟩ := validate_eq_ok_iff.mp accepted
  have notBlank : ∀ {path id source}, schema.Visited root input path id source → path ≠ [] →
      (schema.node id).options.allowBlank = false → source.isBlank = false := by
    intro path id source descends below blankRejected
    have kept := descends.kept below
    simp only [Node.skips, blankRejected, Bool.or_eq_false_iff] at kept
    exact kept.1
  constructor
  · intro nothingEmpty path id source descends below blankRejected empties
    obtain ⟨outputRoute, part, sourcePath, position, sameLength, visitedPart⟩ :=
      image_of_visited plain descends visited
    have step := (visitStep_of_visit plain visitedPart).2
    have outputBelow : outputRoute ≠ [] := by
      rintro rfl
      exact below (List.eq_nil_of_length_eq_zero sameLength.symm)
    have isEmpty := (step.empty_iff_empties (notBlank descends below blankRejected)).mpr empties
    exact absurd isEmpty (not_or.mpr (nothingEmpty _ id part position outputBelow blankRejected))
  · intro nothingEmptied path id part position below blankRejected
    rcases origin_of_position plain position visited with
      ⟨rfl, -⟩ | ⟨inputRoute, source, sourcePath, descends, sameLength, visitedPart⟩
    · exact ⟨Value.noConfusion, Value.noConfusion⟩
    · have step := (visitStep_of_visit plain visitedPart).2
      have inputBelow : inputRoute ≠ [] := by
        rintro rfl
        exact below (List.eq_nil_of_length_eq_zero sameLength.symm)
      have emptied := step.empty_iff_empties (notBlank descends inputBelow blankRejected)
      have kept := nothingEmptied inputRoute id source descends inputBelow blankRejected
      exact not_or.mp fun isEmpty => kept (emptied.mp isEmpty)

/-- An output passes again unchanged exactly when no declared position below it holds an empty
container where blanks are not allowed. -/
theorem revalidates_iff_nothingEmpty (built : schema.Built) (plain : schema.Plain)
    (accepted : schema.validate config input = .ok output) :
    schema.validate config output = .ok output ↔ schema.NothingEmpty output := by
  rw [revalidates_iff_settles built.coherent plain accepted]
  exact settles_iff_nothingEmpty plain accepted

theorem annotated_set_nothingEmpty :
    annotated.NothingEmpty (.map [("meta", .map [("x", .text "y")])]) :=
  (revalidates_iff_nothingEmpty annotated_built annotated_plain validate_annotated_set).mp
    validate_annotated_set

/-- Validation is idempotent on an input exactly when it empties no position of it where blanks are
not allowed. -/
theorem idempotent_iff_nothingEmptied (built : schema.Built) (plain : schema.Plain)
    (accepted : schema.validate config input = .ok output) :
    schema.validate config output = .ok output ↔ schema.NothingEmptied input := by
  rw [revalidates_iff_settles built.coherent plain accepted,
    settles_iff_nothingEmpty plain accepted]
  exact nothingEmpty_iff_nothingEmptied plain accepted

/-- The output that `meta` has been emptied in lacks a required key. -/
theorem validate_annotated_emptied :
    annotated.validate {} (.map [("meta", .map [])]) =
      .error ⟨[], .requiredKeysMissing "meta"⟩ := by
  cbv

theorem annotated_unset_emptied :
    ¬annotated.NothingEmptied (.map [("meta", .map [("x", .nil)])]) := by
  have onlyIf :=
    (idempotent_iff_nothingEmptied annotated_built annotated_plain validate_annotated_unset).mpr
  rw [validate_annotated_emptied] at onlyIf
  intro nothingEmptied
  cases onlyIf nothingEmptied

/-- Not every accepted output passes again. -/
theorem not_always_idempotent :
    ¬∀ (schema : Schema) (config : EngineConfig) (input output : Value), schema.Built →
      schema.Plain → schema.validate config input = .ok output →
        schema.validate config output = .ok output := by
  intro always
  have again := always annotated {} _ _ annotated_built annotated_plain validate_annotated_unset
  rw [validate_annotated_emptied] at again
  cases again

end SecondPass

end ParamSchema.Schema
