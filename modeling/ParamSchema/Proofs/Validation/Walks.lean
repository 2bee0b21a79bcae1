import ParamSchema.Proofs.Validation.Visit

/-!
Contract: the walks as sequences of steps.

Owns:
- one equation for each kind of step, with what follows it as the rest of a sequence;
- the member at which a walk that fails has failed;
- the visit of a node as the sequence of conversion, parts and hooks;
- the induction over visits.

Does not own: what a step or a sequence keeps.
-/

namespace ParamSchema

/-! ## Members without declarations -/

namespace Node

variable {node : Node} {limit depth : Nat} {path : Path}

theorem checkEntries_cons (key : String) (value : Value) (rest : List (String × Value)) :
    node.checkEntries limit depth path ((key, value) :: rest) =
      (node.checkMember .object limit depth value (path ++ [.field key])).bind fun _ =>
        node.checkEntries limit depth path rest := by
  rw [checkEntries]
  cases node.checkMember .object limit depth value (path ++ [.field key]) <;> rfl

theorem checkElements_cons (index : Nat) (value : Value) (rest : List Value) :
    node.checkElements limit depth path index (value :: rest) =
      (node.checkMember .array limit depth value (path ++ [.index index])).bind fun _ =>
        node.checkElements limit depth path (index + 1) rest := by
  rw [checkElements]
  cases node.checkMember .array limit depth value (path ++ [.index index]) <;> rfl

theorem checkMember_eq_error {container : TypeName} {value : Value} {error : ValidationError}
    (failed : node.checkMember container limit depth value path = .error error) :
    value.isScalar = false ∧
      ((node.options.allowNonScalars = false ∧ error = ⟨path, .nonScalarMember container⟩) ∨
        (node.options.allowNonScalars = true ∧ limit < depth + value.nestingDepth ∧
          error = ⟨path, .tooDeep⟩)) := by
  unfold checkMember at failed
  by_cases scalar : value.isScalar
  · rw [if_pos scalar] at failed
    cases failed
  · rw [if_neg scalar] at failed
    refine ⟨by simpa using scalar, ?_⟩
    cases allowed : node.options.allowNonScalars with
    | false =>
        rw [allowed] at failed
        cases failed
        exact .inl ⟨rfl, rfl⟩
    | true =>
        rw [allowed] at failed
        by_cases tooDeep : limit < depth + value.nestingDepth
        · simp only [tooDeep, if_true, Bool.not_true, Bool.false_eq_true, if_false] at failed
          cases failed
          exact .inr ⟨rfl, tooDeep, rfl⟩
        · simp [tooDeep] at failed

theorem checkEntries_eq_error {entries : List (String × Value)} {error : ValidationError}
    (failed : node.checkEntries limit depth path entries = .error error) :
    ∃ key value, (key, value) ∈ entries ∧
      node.checkMember .object limit depth value (path ++ [.field key]) = .error error := by
  induction entries with
  | nil => cases failed
  | cons entry rest inductionHypothesis =>
      obtain ⟨key, value⟩ := entry
      rw [checkEntries_cons, Except.bind_eq_error_iff] at failed
      rcases failed with here | ⟨-, -, later⟩
      · exact ⟨key, value, List.mem_cons_self, here⟩
      · obtain ⟨otherKey, other, member, refused⟩ := inductionHypothesis later
        exact ⟨otherKey, other, List.mem_cons_of_mem _ member, refused⟩

theorem checkElements_eq_error {elements : List Value} {index : Nat} {error : ValidationError}
    (failed : node.checkElements limit depth path index elements = .error error) :
    ∃ (offset : Nat) (value : Value), elements[offset]? = some value ∧
      node.checkMember .array limit depth value (path ++ [.index (index + offset)]) =
        .error error := by
  induction elements generalizing index with
  | nil => cases failed
  | cons value rest inductionHypothesis =>
      rw [checkElements_cons, Except.bind_eq_error_iff] at failed
      rcases failed with here | ⟨-, -, later⟩
      · exact ⟨0, value, rfl, here⟩
      · obtain ⟨offset, other, held, refused⟩ := inductionHypothesis later
        rw [Nat.add_right_comm, Nat.add_assoc] at refused
        exact ⟨offset + 1, other, held, refused⟩

end Node

namespace Schema

variable {schema : Schema} {visit : Visitor} {path : Path}

/-! ## Declared members -/

theorem visitEntries_undeclared {fields : List (String × NodeId)} {key : String}
    (absent : fields.lookup key = none) (value : Value) (rest : List (String × Value)) :
    schema.visitEntries visit fields path ((key, value) :: rest) =
      if schema.strict then .error ⟨path ++ [.field key], .keyNotAllowed key⟩
      else schema.visitEntries visit fields path rest := by
  rw [visitEntries, absent]

theorem visitEntries_declared {fields : List (String × NodeId)} {key : String} {id : NodeId}
    (found : fields.lookup key = some id) (value : Value) (rest : List (String × Value)) :
    schema.visitEntries visit fields path ((key, value) :: rest) =
      if (schema.node id).skips value then schema.visitEntries visit fields path rest
      else (visit id value (path ++ [.field key])).bind fun result =>
        (schema.visitEntries visit fields path rest).map ((key, result) :: ·) := by
  rw [visitEntries, found]
  dsimp only
  cases visit id value (path ++ [.field key]) <;> rfl

theorem visitItems_undeclared (index : Nat) (value : Value) (rest : List Value) :
    schema.visitItems visit path index [] (value :: rest) =
      if schema.strict then .error ⟨path ++ [.index index], .indexNotAllowed index⟩
      else schema.visitItems visit path (index + 1) [] rest := by
  rw [visitItems]

theorem visitItems_declared (index : Nat) (id : NodeId) (ids : List NodeId) (value : Value)
    (rest : List Value) :
    schema.visitItems visit path index (id :: ids) (value :: rest) =
      if (schema.node id).skips value then
        (schema.visitItems visit path (index + 1) ids rest).map (.nil :: ·)
      else (visit id value (path ++ [.index index])).bind fun result =>
        (schema.visitItems visit path (index + 1) ids rest).map (result :: ·) := by
  rw [visitItems]
  cases visit id value (path ++ [.index index]) <;> rfl

theorem visitElements_cons (template : NodeId) (index : Nat) (value : Value) (rest : List Value) :
    schema.visitElements visit template path index (value :: rest) =
      if (schema.node template).skips value then
        schema.visitElements visit template path (index + 1) rest
      else (visit template value (path ++ [.index index])).bind fun result =>
        (schema.visitElements visit template path (index + 1) rest).map (result :: ·) := by
  rw [visitElements]
  cases visit template value (path ++ [.index index]) <;> rfl

/-! ### Where a walk fails -/

/-- An entry ends a walk when its key is not declared in a strict schema, or with its visit. -/
inductive EntryFails (schema : Schema) (visit : Visitor) (fields : List (String × NodeId))
    (path : Path) (key : String) (value : Value) : ValidationError → Prop where
  | undeclared (absent : fields.lookup key = none) (strict : schema.strict = true) :
      EntryFails schema visit fields path key value ⟨path ++ [.field key], .keyNotAllowed key⟩
  | visited {id : NodeId} {error : ValidationError} (declared : fields.lookup key = some id)
      (kept : (schema.node id).skips value = false)
      (failed : visit id value (path ++ [.field key]) = .error error) :
      EntryFails schema visit fields path key value error

/-- An element at some place ends a walk when it is the first behind the items of a strict schema,
or with its visit. -/
inductive ItemFails (schema : Schema) (visit : Visitor) (path : Path) (place : Nat) :
    List NodeId → Nat → Value → ValidationError → Prop where
  | undeclared {items : List NodeId} {value : Value} (strict : schema.strict = true) :
      ItemFails schema visit path place items items.length value
        ⟨path ++ [.index place], .indexNotAllowed place⟩
  | visited {items : List NodeId} {offset : Nat} {id : NodeId} {value : Value}
      {error : ValidationError} (declared : items[offset]? = some id)
      (kept : (schema.node id).skips value = false)
      (failed : visit id value (path ++ [.index place]) = .error error) :
      ItemFails schema visit path place items offset value error

theorem ItemFails.cons {place offset : Nat} {ids : List NodeId} {value : Value}
    {error : ValidationError} (fails : schema.ItemFails visit path place ids offset value error)
    (id : NodeId) : schema.ItemFails visit path place (id :: ids) (offset + 1) value error := by
  cases fails with
  | undeclared strict => exact .undeclared strict
  | visited declared kept failed => exact .visited declared kept failed

theorem visitEntries_eq_error {fields : List (String × NodeId)} {entries : List (String × Value)}
    {error : ValidationError}
    (failed : schema.visitEntries visit fields path entries = .error error) :
    ∃ key value, (key, value) ∈ entries ∧ schema.EntryFails visit fields path key value error := by
  induction entries with
  | nil => cases failed
  | cons entry rest inductionHypothesis =>
      obtain ⟨key, value⟩ := entry
      suffices found : schema.EntryFails visit fields path key value error ∨
          schema.visitEntries visit fields path rest = .error error by
        rcases found with here | later
        · exact ⟨key, value, List.mem_cons_self, here⟩
        · obtain ⟨otherKey, other, member, fails⟩ := inductionHypothesis later
          exact ⟨otherKey, other, List.mem_cons_of_mem _ member, fails⟩
      cases declared : fields.lookup key with
      | none =>
          rw [visitEntries_undeclared declared] at failed
          split at failed
          · next strict =>
              cases failed
              exact .inl (.undeclared declared strict)
          · exact .inr failed
      | some id =>
          rw [visitEntries_declared declared] at failed
          split at failed
          · exact .inr failed
          · next kept =>
              rw [Except.bind_eq_error_iff] at failed
              rcases failed with here | ⟨result, -, later⟩
              · exact .inl (.visited declared (by simpa using kept) here)
              · exact .inr (Except.map_eq_error_iff.mp later)

theorem visitItems_eq_error {items : List NodeId} {elements : List Value} {index : Nat}
    {error : ValidationError}
    (failed : schema.visitItems visit path index items elements = .error error) :
    ∃ (offset : Nat) (value : Value), elements[offset]? = some value ∧
      schema.ItemFails visit path (index + offset) items offset value error := by
  induction elements generalizing index items with
  | nil =>
      rw [visitItems] at failed
      cases failed
  | cons value rest inductionHypothesis =>
      cases items with
      | nil =>
          rw [visitItems_undeclared] at failed
          split at failed
          · next strict =>
              cases failed
              exact ⟨0, value, rfl, .undeclared strict⟩
          · next notStrict =>
              -- Without items the walk fails in a strict schema only.
              obtain ⟨offset, other, held, fails⟩ := inductionHypothesis failed
              cases fails with
              | undeclared strict => exact absurd strict notStrict
              | visited declared => cases declared
      | cons id ids =>
          suffices found : schema.ItemFails visit path index (id :: ids) 0 value error ∨
              schema.visitItems visit path (index + 1) ids rest = .error error by
            rcases found with here | later
            · exact ⟨0, value, rfl, here⟩
            · obtain ⟨offset, other, held, fails⟩ := inductionHypothesis later
              rw [Nat.add_right_comm, Nat.add_assoc] at fails
              exact ⟨offset + 1, other, held, fails.cons id⟩
          rw [visitItems_declared] at failed
          split at failed
          · exact .inr (Except.map_eq_error_iff.mp failed)
          · next kept =>
              rw [Except.bind_eq_error_iff] at failed
              rcases failed with here | ⟨result, -, later⟩
              · exact .inl (.visited rfl (by simpa using kept) here)
              · exact .inr (Except.map_eq_error_iff.mp later)

theorem visitElements_eq_error {template : NodeId} {elements : List Value} {index : Nat}
    {error : ValidationError}
    (failed : schema.visitElements visit template path index elements = .error error) :
    ∃ (offset : Nat) (value : Value), elements[offset]? = some value ∧
      (schema.node template).skips value = false ∧
        visit template value (path ++ [.index (index + offset)]) = .error error := by
  induction elements generalizing index with
  | nil => cases failed
  | cons value rest inductionHypothesis =>
      suffices found : ((schema.node template).skips value = false ∧
            visit template value (path ++ [.index index]) = .error error) ∨
          schema.visitElements visit template path (index + 1) rest = .error error by
        rcases found with ⟨kept, here⟩ | later
        · exact ⟨0, value, rfl, kept, here⟩
        · obtain ⟨offset, other, held, kept, fails⟩ := inductionHypothesis later
          rw [Nat.add_right_comm, Nat.add_assoc] at fails
          exact ⟨offset + 1, other, held, kept, fails⟩
      rw [visitElements_cons] at failed
      split at failed
      · exact .inr failed
      · next kept =>
          rw [Except.bind_eq_error_iff] at failed
          rcases failed with here | ⟨result, -, later⟩
          · exact .inl ⟨by simpa using kept, here⟩
          · exact .inr (Except.map_eq_error_iff.mp later)

/-! ## Visits -/

/-! ### The parts of a value by the kind of children -/

section Parts

variable {limit depth : Nat} {node : Node}

theorem visitParts_openMap (declared : node.children = .keyed [])
    (entries : List (String × Value)) :
    schema.visitParts limit depth visit node (.map entries) path =
      (node.checkEntries limit (depth + 1) path entries).map fun _ => .map entries := by
  unfold visitParts
  rw [declared]

theorem visitParts_fields {fields : List (String × NodeId)}
    (declared : node.children = .keyed fields) (nonempty : fields ≠ [])
    (entries : List (String × Value)) :
    schema.visitParts limit depth visit node (.map entries) path =
      schema.visitMap visit fields entries path := by
  obtain ⟨field, rest, rfl⟩ := List.exists_cons_of_ne_nil nonempty
  unfold visitParts
  rw [declared]

theorem visitParts_openSeq (declared : node.children = .positional []) (elements : List Value) :
    schema.visitParts limit depth visit node (.seq elements) path =
      (node.checkElements limit (depth + 1) path 0 elements).map fun _ => .seq elements := by
  unfold visitParts
  rw [declared]

theorem visitParts_items {items : List NodeId} (declared : node.children = .positional items)
    (nonempty : items ≠ []) (elements : List Value) :
    schema.visitParts limit depth visit node (.seq elements) path =
      schema.visitSeq visit items elements path := by
  obtain ⟨item, rest, rfl⟩ := List.exists_cons_of_ne_nil nonempty
  unfold visitParts
  rw [declared]

theorem visitParts_elements {template : NodeId} (declared : node.children = .homogeneous template)
    (elements : List Value) :
    schema.visitParts limit depth visit node (.seq elements) path =
      (schema.visitElements visit template path 0 elements).map .seq := by
  unfold visitParts
  rw [declared]

end Parts

section Visits

variable {limit depth : Nat} {id : NodeId}

theorem visit_beyond (tooDeep : limit < depth) (input : Value) :
    schema.visit limit depth id input path = .error ⟨path, .tooDeep⟩ := by
  rw [Schema.visit, if_pos tooDeep]

theorem visit_of_nil (inLimit : depth ≤ limit) :
    schema.visit limit depth id .nil path =
      if (schema.node id).acceptsNil then .ok .nil else .error ⟨path, .nil⟩ := by
  rw [Schema.visit, if_neg (Nat.not_lt.mpr inLimit)]
  rfl

theorem visit_unclassified (inLimit : depth ≤ limit) {input : Value}
    (ofNoType : TypeName.classify input = none) :
    schema.visit limit depth id input path =
      .error ⟨path, .typeMismatch none (schema.node id).type⟩ := by
  rw [Schema.visit, if_neg (Nat.not_lt.mpr inLimit), ofNoType]

/-- Within the limit, a value other than nil is converted, rebuilt from its parts, and handed to the
hooks. -/
theorem visit_classified (inLimit : depth ≤ limit) {input : Value} {observed : TypeName}
    (ofType : TypeName.classify input = some observed) (notNil : input ≠ .nil) :
    schema.visit limit depth id input path =
      (((schema.node id).conform observed input).mapError fun failure => ⟨path, failure⟩).bind
        fun value =>
          (schema.visitParts limit depth (schema.visit limit (depth + 1)) (schema.node id) value
            path).bind fun output => (schema.node id).applyHooks path output := by
  have isNil : input.isNil = false :=
    Bool.eq_false_iff.mpr fun same => notNil (Value.isNil_eq_true_iff.mp same)
  rw [Schema.visit, if_neg (Nat.not_lt.mpr inLimit), ofType]
  simp only [isNil, Bool.false_eq_true, if_false]
  cases (schema.node id).conform observed input with
  | error failure => rfl
  | ok value =>
      simp only [Except.mapError, Except.bind]
      cases schema.visitParts limit depth (schema.visit limit (depth + 1)) (schema.node id) value
        path <;> rfl

/-- A container is not converted: it is refused for its type alone, or rebuilt from its parts. -/
theorem visit_container (inLimit : depth ≤ limit) {input : Value} {observed : TypeName}
    (ofType : TypeName.classify input = some observed) (composite : observed.isScalar = false) :
    schema.visit limit depth id input path =
      if (schema.node id).type.mismatches observed then
        .error ⟨path, .typeMismatch (some observed) (schema.node id).type⟩
      else
        (schema.visitParts limit depth (schema.visit limit (depth + 1)) (schema.node id) input
          path).bind fun output => (schema.node id).applyHooks path output := by
  have notNil : input ≠ .nil := by
    rintro rfl
    cases ofType
    cases composite
  have unconverted : (schema.node id).type.canCoerceFrom observed = false := by
    by_contra allowed
    have scalar := (TypeName.isScalar_of_canCoerceFrom (by simpa using allowed)).2
    rw [composite] at scalar
    cases scalar
  rw [visit_classified inLimit ofType notNil, Node.conform, unconverted, Bool.and_false]
  split
  · rfl
  · rfl

/-- A container of the type of its node is rebuilt from its parts and handed to the hooks. -/
theorem visit_own_container (inLimit : depth ≤ limit) {input : Value}
    (ofType : TypeName.classify input = some (schema.node id).type)
    (composite : (schema.node id).type.isScalar = false) :
    schema.visit limit depth id input path =
      (schema.visitParts limit depth (schema.visit limit (depth + 1)) (schema.node id) input
        path).bind fun output => (schema.node id).applyHooks path output := by
  have ownType : (schema.node id).type.mismatches (schema.node id).type = false := by
    simp [TypeName.mismatches]
  rw [visit_container inLimit ofType composite, ownType, if_neg Bool.false_ne_true]

/-- What holds of the visits beyond the limit, and of a visit within it once it holds one level
below, holds of every visit. -/
theorem visit_induction (Holds : Nat → NodeId → Value → Path → Verdict Value → Prop)
    (beyond : ∀ depth id input path, limit < depth →
      Holds depth id input path (.error ⟨path, .tooDeep⟩))
    (step : ∀ depth id input path, depth ≤ limit →
      (∀ child part place,
        Holds (depth + 1) child part place (schema.visit limit (depth + 1) child part place)) →
      Holds depth id input path (schema.visit limit depth id input path))
    (depth : Nat) (id : NodeId) (input : Value) (path : Path) :
    Holds depth id input path (schema.visit limit depth id input path) := by
  by_cases tooDeep : limit < depth
  · rw [visit_beyond tooDeep]
    exact beyond depth id input path tooDeep
  · exact step depth id input path (Nat.le_of_not_lt tooDeep) fun child part place =>
      visit_induction Holds beyond step (depth + 1) child part place
termination_by limit + 1 - depth

end Visits

end Schema

end ParamSchema
