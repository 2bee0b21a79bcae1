import ParamSchema.Proofs.Validation.Walks

/-!
Contract: how the visit of a node fails.

Owns:
- the value that a node hands to its hooks;
- the failures of the parts of a value, and of a visit, one rule for each;
- that every error of a visit comes about by one of these rules, in coherent schemas.

Does not own: where the path of an error leads (`Proofs.Validation.Blame`).
-/

namespace ParamSchema

/-! ## Conversion and hooks -/

namespace Node

variable {node : Node} {path : Path}

theorem conform_eq_error {observed : TypeName} {input : Value} {failure : Failure}
    (failed : node.conform observed input = .error failure) :
    node.type.mismatches observed = true ∧
      ((failure = .typeMismatch (some observed) node.type ∧
          (node.options.coerce && node.type.canCoerceFrom observed) = false) ∨
        (failure = .coercionFailed ∧
          (node.options.coerce && node.type.canCoerceFrom observed) = true ∧
            ∃ reason, node.type.coerce input = .error reason)) := by
  unfold conform at failed
  by_cases mismatched : node.type.mismatches observed
  · refine ⟨mismatched, ?_⟩
    rw [if_pos mismatched] at failed
    by_cases convertible : node.options.coerce && node.type.canCoerceFrom observed
    · rw [if_pos convertible] at failed
      cases converted : node.type.coerce input with
      | error reason =>
          rw [converted] at failed
          cases failed
          exact .inr ⟨rfl, convertible, reason, rfl⟩
      | ok value =>
          rw [converted] at failed
          cases failed
    · rw [if_neg convertible] at failed
      cases failed
      exact .inl ⟨rfl, by simpa using convertible⟩
  · rw [if_neg mismatched] at failed
    cases failed

theorem conform_eq_converted {observed : TypeName} {input value : Value}
    (conforms : node.conform observed input = .ok value) :
    value = input ∨ (node.options.coerce = true ∧ node.type.coerce input = .ok value) := by
  unfold conform at conforms
  split at conforms
  · split at conforms
    · next convertible =>
        cases converted : node.type.coerce input with
        | error reason =>
            rw [converted] at conforms
            cases conforms
        | ok result =>
            rw [converted] at conforms
            cases conforms
            exact .inr ⟨(Bool.and_eq_true_iff.mp convertible).1, rfl⟩
    · cases conforms
  · cases conforms
    exact .inl rfl

theorem applyHooks_eq_error {value : Value} {error : ValidationError}
    (failed : node.applyHooks path value = .error error) :
    (node.includes value = false ∧ error = ⟨path, .notIncluded⟩) ∨
      ∃ message, node.verdict value = .error message ∧ error = ⟨path, .invalid message⟩ := by
  unfold applyHooks at failed
  by_cases included : node.includes value
  · rw [if_pos included] at failed
    cases outcome : node.verdict value with
    | error message =>
        rw [outcome] at failed
        cases failed
        exact .inr ⟨message, rfl, rfl⟩
    | ok accepted =>
        rw [outcome] at failed
        cases failed
  · rw [if_neg included] at failed
    cases failed
    exact .inl ⟨by simpa using included, rfl⟩

end Node

namespace Schema

variable {schema : Schema} {limit depth : Nat} {visit : Visitor} {id : NodeId} {path : Path}

/-! ## Parts -/

/-- How the parts of a value fail beneath a node. -/
inductive PartsFail (schema : Schema) (limit depth : Nat) (visit : Visitor) (id : NodeId)
    (path : Path) : Value → ValidationError → Prop where
  | memberRefused {value part : Value} {segment : Segment} (within : value.Part segment part)
      (undeclared : (schema.node id).children.isUndeclared = true)
      (container : part.isScalar = false)
      (refused : (schema.node id).options.allowNonScalars = false) :
      PartsFail schema limit depth visit id path value
        ⟨path ++ [segment], .nonScalarMember (schema.node id).type⟩
  | memberTooDeep {value part : Value} {segment : Segment} (within : value.Part segment part)
      (undeclared : (schema.node id).children.isUndeclared = true)
      (container : part.isScalar = false)
      (allowed : (schema.node id).options.allowNonScalars = true)
      (beyond : limit < depth + 1 + part.nestingDepth) :
      PartsFail schema limit depth visit id path value ⟨path ++ [segment], .tooDeep⟩
  | keyMissing {fields : List (String × NodeId)} {entries : List (String × Value)} {key : String}
      {child : NodeId} (declared : (schema.node id).children = .keyed fields)
      (isField : (key, child) ∈ fields) (required : (schema.node child).isRequired = true)
      (absent : ∀ part, entries.lookup key = some part → (schema.node child).skips part = true) :
      PartsFail schema limit depth visit id path (.map entries) ⟨path, .requiredKeysMissing key⟩
  | keyNotAllowed {fields : List (String × NodeId)} {entries : List (String × Value)} {key : String}
      {part : Value} (declared : (schema.node id).children = .keyed fields) (nonempty : fields ≠ [])
      (held : (key, part) ∈ entries) (absent : fields.lookup key = none)
      (strict : schema.strict = true) :
      PartsFail schema limit depth visit id path (.map entries)
        ⟨path ++ [.field key], .keyNotAllowed key⟩
  | itemMissing {items : List NodeId} {elements : List Value} {index : Nat} {child : NodeId}
      (declared : (schema.node id).children = .positional items)
      (isItem : items[index]? = some child) (required : (schema.node child).isRequired = true)
      (absent : ∀ part, elements[index]? = some part → (schema.node child).skips part = true) :
      PartsFail schema limit depth visit id path (.seq elements) ⟨path, .requiredItemsMissing⟩
  | indexNotAllowed {items : List NodeId} {elements : List Value} {part : Value}
      (declared : (schema.node id).children = .positional items) (nonempty : items ≠ [])
      (held : elements[items.length]? = some part) (strict : schema.strict = true) :
      PartsFail schema limit depth visit id path (.seq elements)
        ⟨path ++ [.index items.length], .indexNotAllowed items.length⟩
  | visited {value part : Value} {segment : Segment} {child : NodeId} {error : ValidationError}
      (isPart : schema.VisitedPart id value segment child part)
      (failed : visit child part (path ++ [segment]) = .error error) :
      PartsFail schema limit depth visit id path value error

/-- Only containers have parts that fail. -/
theorem PartsFail.isScalar_eq_false {value : Value} {error : ValidationError}
    (fails : schema.PartsFail limit depth visit id path value error) : value.isScalar = false := by
  cases fails with
  | memberRefused within | memberTooDeep within => exact within.isScalar_eq_false
  | keyMissing | keyNotAllowed | itemMissing | indexNotAllowed => rfl
  | visited isPart => exact isPart.within.isScalar_eq_false

section Parts

variable {error : ValidationError}

theorem missingKey?_eq_some {fields : List (String × NodeId)} {entries : List (String × Value)}
    {key : String} (missing : schema.missingKey? fields entries = some key) :
    ∃ child, (key, child) ∈ fields ∧ (schema.node child).isRequired = true ∧
      ∀ part, entries.lookup key = some part → (schema.node child).skips part = true := by
  obtain ⟨⟨_, child⟩, found, rfl⟩ := Option.map_eq_some_iff.mp missing
  have isMissing := List.find?_some found
  simp only [fieldMissing, Bool.and_eq_true] at isMissing
  refine ⟨child, List.mem_of_find?_eq_some found, isMissing.1, fun part held => ?_⟩
  simpa [held] using isMissing.2

theorem itemMissing_eq_true {items : List NodeId} {elements : List Value}
    (missing : schema.itemMissing items elements = true) :
    ∃ (index : Nat) (child : NodeId), items[index]? = some child ∧
      (schema.node child).isRequired = true ∧
        ∀ part, elements[index]? = some part → (schema.node child).skips part = true := by
  by_contra noneMissing
  have present : schema.itemMissing items elements = false := by
    refine itemMissing_eq_false_iff.mpr fun index child isItem required => ?_
    by_contra absent
    refine noneMissing ⟨index, child, isItem, required, fun part held => ?_⟩
    by_contra kept
    exact absent ⟨part, held, by simpa using kept⟩
  rw [missing] at present
  cases present

theorem checkMember_fails {container : TypeName} {value part : Value} {segment : Segment}
    (within : value.Part segment part)
    (undeclared : (schema.node id).children.isUndeclared = true)
    (isType : (schema.node id).type = container)
    (failed : (schema.node id).checkMember container limit (depth + 1) part (path ++ [segment]) =
      .error error) : schema.PartsFail limit depth visit id path value error := by
  subst isType
  obtain ⟨notScalar, ⟨refused, rfl⟩ | ⟨allowed, beyond, rfl⟩⟩ := Node.checkMember_eq_error failed
  · exact .memberRefused within undeclared notScalar refused
  · exact .memberTooDeep within undeclared notScalar allowed beyond

/-- Where the value is of the type of the node, its parts fail by one of the rules. -/
theorem visitParts_eq_error (coherent : schema.Coherent) {value : Value}
    (ofType : TypeName.classify value = some (schema.node id).type)
    (failed : schema.visitParts limit depth visit (schema.node id) value path = .error error) :
    schema.PartsFail limit depth visit id path value error := by
  have children := coherent.ofType id
  unfold visitParts at failed
  split at failed
  case h_1 entries declared =>
    rw [declared] at children
    obtain ⟨key, part, held, refused⟩ :=
      Node.checkEntries_eq_error (Except.map_eq_error_iff.mp failed)
    exact checkMember_fails (.entry held) (by rw [declared]; rfl) children.of_keyed refused
  case h_2 fields entries nonempty declared =>
    unfold visitMap at failed
    split at failed
    · next missing =>
        cases failed
        obtain ⟨child, isField, required, absent⟩ := missingKey?_eq_some missing
        exact .keyMissing declared isField required absent
    · obtain ⟨key, part, held, fails⟩ := visitEntries_eq_error (Except.map_eq_error_iff.mp failed)
      cases fails with
      | undeclared absent strict => exact .keyNotAllowed declared nonempty held absent strict
      | visited found kept visitFailed =>
          exact .visited ⟨declaredPart_field declared found held, kept⟩ visitFailed
  case h_3 elements declared =>
    rw [declared] at children
    obtain ⟨offset, part, held, refused⟩ :=
      Node.checkElements_eq_error (Except.map_eq_error_iff.mp failed)
    rw [Nat.zero_add] at refused
    exact checkMember_fails (.element held) (by rw [declared]; rfl) children.of_positional refused
  case h_4 items elements nonempty declared =>
    unfold visitSeq at failed
    split at failed
    · next missing =>
        cases failed
        obtain ⟨index, child, isItem, required, absent⟩ := itemMissing_eq_true missing
        exact .itemMissing declared isItem required absent
    · obtain ⟨offset, part, held, fails⟩ := visitItems_eq_error (Except.map_eq_error_iff.mp failed)
      rw [Nat.zero_add] at fails
      cases fails with
      | undeclared strict => exact .indexNotAllowed declared nonempty held strict
      | visited found kept visitFailed =>
          exact .visited ⟨declaredPart_item declared found held, kept⟩ visitFailed
  case h_5 template elements declared =>
    obtain ⟨offset, part, held, kept, visitFailed⟩ :=
      visitElements_eq_error (Except.map_eq_error_iff.mp failed)
    rw [Nat.zero_add] at visitFailed
    exact .visited ⟨declaredPart_element declared held, kept⟩ visitFailed
  case h_6 leaf declared =>
    -- A node for scalars has met a value of its own type.
    rw [declared] at children
    rw [TypeName.isScalar_of_classify ofType, children.of_scalar] at failed
    cases failed
  case h_7 notScalar _ notMap _ notSeq notElements =>
    -- Children of the type of the node meet a value of that type.
    exfalso
    cases declared : (schema.node id).children with
    | scalar => exact notScalar declared
    | keyed fields =>
        rw [declared] at children
        obtain ⟨entries, rfl⟩ := TypeName.exists_map_of_classify (children.of_keyed ▸ ofType)
        exact notMap fields entries declared rfl
    | positional items =>
        rw [declared] at children
        obtain ⟨elements, rfl⟩ := TypeName.exists_seq_of_classify (children.of_positional ▸ ofType)
        exact notSeq items elements declared rfl
    | homogeneous template =>
        rw [declared] at children
        obtain ⟨elements, rfl⟩ := TypeName.exists_seq_of_classify (children.of_homogeneous ▸ ofType)
        exact notElements template elements declared rfl

end Parts

/-! ## Visits -/

/-- What a node hands to its hooks: the input, or a scalar that it converts to, rebuilt from its
parts. -/
inductive HandsOver (schema : Schema) (limit depth : Nat) (id : NodeId) (path : Path) :
    Value → Value → Prop where
  | rebuilt {input value output : Value}
      (ofType : TypeName.classify value = some (schema.node id).type)
      (source : value = input ∨
        ((schema.node id).options.coerce = true ∧ (schema.node id).type.coerce input = .ok value))
      (rebuilds : schema.Rebuilds limit depth (schema.visit limit (depth + 1)) id path value
        output) :
      HandsOver schema limit depth id path input output

/-- How the visit of a node on an input fails. -/
inductive VisitFails (schema : Schema) (limit depth : Nat) (id : NodeId) (path : Path) :
    Value → ValidationError → Prop where
  | tooDeep {input : Value} (beyond : limit < depth) :
      VisitFails schema limit depth id path input ⟨path, .tooDeep⟩
  | unknownType {input : Value} (ofNoType : TypeName.classify input = none) :
      VisitFails schema limit depth id path input
        ⟨path, .typeMismatch none (schema.node id).type⟩
  | nil (refused : (schema.node id).acceptsNil = false) :
      VisitFails schema limit depth id path .nil ⟨path, .nil⟩
  | typeMismatch {input : Value} {observed : TypeName}
      (ofType : TypeName.classify input = some observed)
      (mismatched : (schema.node id).type.mismatches observed = true)
      (unconverted : ((schema.node id).options.coerce &&
        (schema.node id).type.canCoerceFrom observed) = false) :
      VisitFails schema limit depth id path input
        ⟨path, .typeMismatch (some observed) (schema.node id).type⟩
  | coercionFailed {input : Value} {observed : TypeName} {reason : CoercionError}
      (ofType : TypeName.classify input = some observed)
      (mismatched : (schema.node id).type.mismatches observed = true)
      (coerces : (schema.node id).options.coerce = true)
      (allowed : (schema.node id).type.canCoerceFrom observed = true)
      (failed : (schema.node id).type.coerce input = .error reason) :
      VisitFails schema limit depth id path input ⟨path, .coercionFailed⟩
  | parts {input : Value} {error : ValidationError}
      (ofType : TypeName.classify input = some (schema.node id).type)
      (fails : schema.PartsFail limit depth (schema.visit limit (depth + 1)) id path input error) :
      VisitFails schema limit depth id path input error
  | notIncluded {input output : Value}
      (handsOver : schema.HandsOver limit depth id path input output)
      (excluded : (schema.node id).includes output = false) :
      VisitFails schema limit depth id path input ⟨path, .notIncluded⟩
  | invalid {input output : Value} {message : String}
      (handsOver : schema.HandsOver limit depth id path input output)
      (rejected : (schema.node id).verdict output = .error message) :
      VisitFails schema limit depth id path input ⟨path, .invalid message⟩

/-- Every error of a visit comes about by one of the rules. -/
theorem visit_eq_error (coherent : schema.Coherent) {input : Value} {error : ValidationError}
    (failed : schema.visit limit depth id input path = .error error) :
    schema.VisitFails limit depth id path input error := by
  by_cases inLimit : depth ≤ limit
  case neg =>
    rw [visit_beyond (Nat.lt_of_not_le inLimit)] at failed
    cases failed
    exact .tooDeep (Nat.lt_of_not_le inLimit)
  by_cases isNil : input = .nil
  · subst isNil
    rw [visit_of_nil inLimit] at failed
    split at failed
    · cases failed
    · next refused =>
        cases failed
        exact .nil (by simpa using refused)
  cases ofType : TypeName.classify input with
  | none =>
      rw [visit_unclassified inLimit ofType] at failed
      cases failed
      exact .unknownType ofType
  | some observed =>
      rw [visit_classified inLimit ofType isNil, Except.bind_eq_error_iff] at failed
      rcases failed with unconformed | ⟨value, conforms, failed⟩
      · obtain ⟨failure, conformFails, rfl⟩ := Except.mapError_eq_error_iff.mp unconformed
        obtain ⟨mismatched, ⟨rfl, unconverted⟩ | ⟨rfl, convertible, reason, coerceFails⟩⟩ :=
          Node.conform_eq_error conformFails
        · exact .typeMismatch ofType mismatched unconverted
        · obtain ⟨coerces, allowed⟩ := Bool.and_eq_true_iff.mp convertible
          exact .coercionFailed ofType mismatched coerces allowed coerceFails
      · have conformsTo := Except.mapError_eq_ok_iff.mp conforms
        obtain ⟨valueOfType, source⟩ := Node.conform_eq_ok ofType isNil conformsTo
        rw [Except.bind_eq_error_iff] at failed
        rcases failed with partFails | ⟨output, rebuilt, hooksFail⟩
        · have fails := visitParts_eq_error coherent valueOfType partFails
          -- A converted value is a scalar, and has no parts that fail.
          rcases source with rfl | ⟨-, isScalar, -⟩
          · exact .parts valueOfType fails
          · rw [fails.isScalar_eq_false] at isScalar
            cases isScalar
        · have handsOver : schema.HandsOver limit depth id path input output :=
            .rebuilt valueOfType (Node.conform_eq_converted conformsTo)
              (visitParts_eq_ok_iff.mp rebuilt)
          rcases Node.applyHooks_eq_error hooksFail with
            ⟨excluded, rfl⟩ | ⟨message, rejected, rfl⟩
          · exact .notIncluded handsOver excluded
          · exact .invalid handsOver rejected

end Schema

end ParamSchema
