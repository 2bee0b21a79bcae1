import ParamSchema.Proofs.Validation.Blame
import ParamSchema.Proofs.Validation.FirstFailure

/-!
Contract: an error is decided by what stands before it.

Owns:
- a first failure under later parts that are revised;
- that revising an input behind the place of its error leaves the error as it is.

Does not own: revisions themselves (`Proofs.Validation.Revision`).
-/

namespace ParamSchema

section Steps

variable {segment : Segment} {path rest : Path} {failure : Failure}

/-- An error at a place under a step is not found under another step. -/
theorem eq_of_prefix_place {other : Segment} {error : ValidationError}
    (within : path ++ [other] <+: error.path) (place : error.path = path ++ segment :: rest) :
    other = segment := by
  rw [place] at within
  obtain ⟨beyond, same⟩ := within
  rw [List.append_assoc, List.append_cancel_left_eq] at same
  exact (List.cons.inj same).1

/-- Steps in order fail with the same first error when the parts before it are the same and the part
that fails goes on to fail so. -/
theorem firstFailure_stable {step : Segment → Value → Verdict Unit}
    {parts others : List (Segment × Value)}
    (ascending : parts.Pairwise fun earlier later => earlier.1.Before later.1)
    (revised : List.Forall₂ (Value.Revised.OfPart (Path.Behind (segment :: rest))) parts others)
    (places : ∀ other part error, step other part = .error error →
      path ++ [other] <+: error.path)
    (stable : ∀ part other, (segment, part) ∈ parts → part.Revised (Path.Behind rest) other →
      step segment part = .error ⟨path ++ segment :: rest, failure⟩ →
        step segment other = .error ⟨path ++ segment :: rest, failure⟩)
    (failed : firstFailure step parts = .error ⟨path ++ segment :: rest, failure⟩) :
    firstFailure step others = .error ⟨path ++ segment :: rest, failure⟩ := by
  induction revised with
  | nil => exact failed
  | @cons head otherHead tail otherTail headRevised tailRevised inductionHypothesis =>
      obtain ⟨current, part⟩ := head
      obtain ⟨otherSegment, other⟩ := otherHead
      obtain ⟨sameSegment, partRevised⟩ := headRevised
      dsimp only at sameSegment partRevised
      subst otherSegment
      rw [List.pairwise_cons] at ascending
      rw [firstFailure, Except.bind_eq_error_iff] at failed ⊢
      rcases failed with here | ⟨⟨⟩, passed, later⟩
      · left
        obtain rfl := eq_of_prefix_place (places current part _ here) rfl
        refine stable part other List.mem_cons_self ?_ here
        have sameAllowed : (fun place => Path.Behind (current :: rest) (current :: place)) =
            Path.Behind rest := funext fun place => propext Path.Behind.cons_iff
        exact sameAllowed ▸ partRevised
      · right
        -- The failing part comes later, so this one stands before the error.
        obtain ⟨failing, failingPart, member, fails⟩ := firstFailure_eq_error later
        obtain rfl := eq_of_prefix_place (places failing failingPart _ fails) rfl
        have before : current.Before failing := ascending.1 _ member
        obtain rfl := partRevised.eq_of_never fun place => Path.Behind.not_of_before before
        refine ⟨(), passed, inductionHypothesis ascending.2 ?_ later⟩
        exact fun part other inTail => stable part other (List.mem_cons_of_mem _ inTail)

end Steps

namespace Node

variable {node : Node}

/-- A member is refused at its own place, and is not itself revised. -/
theorem checkMember_stable {container : TypeName} {limit depth : Nat} {part other : Value}
    {path rest : Path} {segment : Segment} {failure : Failure}
    (revised : part.Revised (Path.Behind rest) other)
    (refused : node.checkMember container limit depth part (path ++ [segment]) =
      .error ⟨path ++ segment :: rest, failure⟩) :
    node.checkMember container limit depth other (path ++ [segment]) =
      .error ⟨path ++ segment :: rest, failure⟩ := by
  have atMember : path ++ segment :: rest = path ++ [segment] := checkMember_place refused
  have nothingBelow : rest = [] := by simpa using atMember
  subst nothingBelow
  obtain rfl := revised.eq_of_never fun _ => Path.Behind.nil_not
  exact refused

end Node

namespace Schema

variable {schema : Schema}

/-! ## Parts and visits -/

section Visits

variable {limit depth : Nat} {visit : Visitor} {id : NodeId} {segment : Segment} {path rest : Path}
  {failure : Failure} {value other : Value}

/-- Members behind the place of an error are not looked at. -/
theorem members_stable {node : Node} {container : TypeName} (ordered : value.Ordered)
    {others : List (Segment × Value)}
    (revised : List.Forall₂ (Value.Revised.OfPart (Path.Behind (segment :: rest))) value.parts
      others)
    (failed : firstFailure
      (fun segment part => node.checkMember container limit depth part (path ++ [segment]))
        value.parts = .error ⟨path ++ segment :: rest, failure⟩) :
    firstFailure
      (fun segment part => node.checkMember container limit depth part (path ++ [segment])) others =
        .error ⟨path ++ segment :: rest, failure⟩ := by
  apply firstFailure_stable ordered.pairwise_parts revised ?places ?stable failed
  case places =>
    intro other part error refused
    have atMember : error.path = path ++ [other] := Node.checkMember_place refused
    exact ⟨[], by rw [List.append_nil, atMember]⟩
  case stable =>
    intro part other _ partRevised refused
    exact Node.checkMember_stable partRevised refused

section Walks

variable (places : ∀ child part place error, visit child part place = .error error →
    place <+: error.path)
  (visits : ∀ child part other place, part.Ordered → part.Revised (Path.Behind rest) other →
    visit child part place = .error ⟨place ++ rest, failure⟩ →
      visit child other place = .error ⟨place ++ rest, failure⟩)

include places in
theorem partVerdict_place {part : Value} {error : ValidationError}
    (failed : schema.partVerdict visit id path segment part = .error error) :
    path ++ [segment] <+: error.path := by
  unfold partVerdict at failed
  split at failed
  · split at failed
    · cases failed
      exact List.prefix_refl _
    · cases failed
  · split at failed
    · cases failed
    · exact places _ part _ error (Except.map_eq_error_iff.mp failed)

include visits in
theorem partVerdict_stable {part other : Value} (ordered : part.Ordered)
    (revised : part.Revised (Path.Behind rest) other)
    (failed : schema.partVerdict visit id path segment part =
      .error ⟨path ++ segment :: rest, failure⟩) :
    schema.partVerdict visit id path segment other = .error ⟨path ++ segment :: rest, failure⟩ := by
  unfold partVerdict at failed ⊢
  split at failed
  · exact failed
  · rw [Node.skips_eq_of_resembles revised.resembles]
    split at failed
    · cases failed
    · next kept =>
        have place : path ++ segment :: rest = (path ++ [segment]) ++ rest := by simp
        rw [place] at failed ⊢
        rw [Except.map_eq_error_iff] at failed
        rw [if_neg kept, Except.map_eq_error_iff]
        exact visits _ part other _ ordered revised failed

include places visits

/-- Parts behind the place of an error are not visited. -/
theorem partVerdicts_stable (ordered : value.Ordered) {others : List (Segment × Value)}
    (revised : List.Forall₂ (Value.Revised.OfPart (Path.Behind (segment :: rest))) value.parts
      others)
    (failed : firstFailure (schema.partVerdict visit id path) value.parts =
      .error ⟨path ++ segment :: rest, failure⟩) :
    firstFailure (schema.partVerdict visit id path) others =
      .error ⟨path ++ segment :: rest, failure⟩ := by
  apply firstFailure_stable ordered.pairwise_parts revised ?places ?stable failed
  case places => exact fun _ _ _ => partVerdict_place places
  case stable =>
    intro part other member partRevised
    exact partVerdict_stable visits (ordered.of_part (Value.mem_parts_iff.mp member)) partRevised

/-- The check for required fields sees no difference, and an error beneath the map is one of the
walk over its entries. -/
theorem visitMap_stable {fields : List (String × NodeId)} {entries others : List (String × Value)}
    (declared : (schema.node id).children = .keyed fields) (ordered : (Value.map entries).Ordered)
    (revised : List.Forall₂ (Value.Revised.OfPart (Path.Behind (segment :: rest)))
      (Value.map entries).parts (Value.map others).parts)
    (failed : schema.visitMap visit fields entries path =
      .error ⟨path ++ segment :: rest, failure⟩) :
    schema.visitMap visit fields others path = .error ⟨path ++ segment :: rest, failure⟩ := by
  unfold visitMap at failed ⊢
  rw [missingKey?_of_resembling (revised.imp fun _ _ agree =>
    ⟨agree.segment, agree.revised.resembles⟩)]
  split at failed
  · have atMap := congrArg ValidationError.path (Except.error.inj failed)
    simp at atMap
  · have walked : ∀ members, (schema.visitEntries visit fields path members).map (fun _ => ()) =
        firstFailure (schema.partVerdict visit id path) (Value.map members).parts :=
      visitEntries_firstFailure declared
    rw [Except.map_eq_error_iff, Except.eq_error_iff_of_map (walked _)] at failed ⊢
    exact partVerdicts_stable places visits ordered revised failed

/-- The check for required items sees no difference, and an error beneath the list is one of the
walk over its elements. -/
theorem visitSeq_stable {items : List NodeId} {elements others : List Value}
    (declared : (schema.node id).children = .positional items)
    (ordered : (Value.seq elements).Ordered)
    (revised : List.Forall₂ (Value.Revised.OfPart (Path.Behind (segment :: rest)))
      (Value.seq elements).parts (Value.seq others).parts)
    (failed : schema.visitSeq visit items elements path =
      .error ⟨path ++ segment :: rest, failure⟩) :
    schema.visitSeq visit items others path = .error ⟨path ++ segment :: rest, failure⟩ := by
  obtain ⟨length, resembling⟩ := Value.Revised.OfPart.elements_resemble revised
  have sameItems : (others.take items.length).length = (elements.take items.length).length := by
    rw [List.length_take, List.length_take, length]
  unfold visitSeq at failed ⊢
  rw [itemMissing_of_resembling items sameItems fun index part other _ =>
    resembling index part other]
  split at failed
  · have atSeq := congrArg ValidationError.path (Except.error.inj failed)
    simp at atSeq
  · next present =>
      have walked : ∀ members, (schema.visitItems visit path 0 items members).map (fun _ => ()) =
          firstFailure (schema.partVerdict visit id path) (Value.seq members).parts :=
        visitItems_firstFailure declared 0
      rw [if_neg present]
      rw [Except.map_eq_error_iff, Except.eq_error_iff_of_map (walked _)] at failed ⊢
      exact partVerdicts_stable places visits ordered revised failed

/-- Revising the parts of a value behind the place of an error leaves the error as it is, where that
holds of the visits of children. -/
theorem visitParts_stable (coherent : schema.Coherent)
    (ofType : TypeName.classify value = some (schema.node id).type) (ordered : value.Ordered)
    (revised : value.Revised (Path.Behind (segment :: rest)) other)
    (failed : schema.visitParts limit depth visit (schema.node id) value path =
      .error ⟨path ++ segment :: rest, failure⟩) :
    schema.visitParts limit depth visit (schema.node id) other path =
      .error ⟨path ++ segment :: rest, failure⟩ := by
  have children := coherent.ofType id
  have notHere : ¬Path.Behind (segment :: rest) [] := Path.Behind.not_nil
  cases declared : (schema.node id).children with
  | scalar =>
      rw [declared] at children
      have isScalar := TypeName.isScalar_of_classify ofType
      have container := (visitParts_eq_error coherent ofType failed).isScalar_eq_false
      rw [container, children.of_scalar] at isScalar
      cases isScalar
  | keyed fields =>
      rw [declared] at children
      obtain ⟨entries, rfl⟩ := TypeName.exists_map_of_classify (children.of_keyed ▸ ofType)
      obtain ⟨others, rfl, partsRevised⟩ := revised.of_map notHere
      by_cases isEmpty : fields = []
      · subst isEmpty
        rw [visitParts_openMap declared, Except.map_eq_error_iff,
          Node.checkEntries_eq_firstFailure] at failed ⊢
        exact members_stable ordered partsRevised failed
      · rw [visitParts_fields declared isEmpty] at failed ⊢
        exact visitMap_stable places visits declared ordered partsRevised failed
  | positional items =>
      rw [declared] at children
      obtain ⟨elements, rfl⟩ := TypeName.exists_seq_of_classify (children.of_positional ▸ ofType)
      obtain ⟨others, rfl, partsRevised⟩ := revised.of_seq notHere
      by_cases isEmpty : items = []
      · subst isEmpty
        rw [visitParts_openSeq declared, Except.map_eq_error_iff,
          Node.checkElements_eq_firstFailure] at failed ⊢
        exact members_stable ordered partsRevised failed
      · rw [visitParts_items declared isEmpty] at failed ⊢
        exact visitSeq_stable places visits declared ordered partsRevised failed
  | homogeneous template =>
      rw [declared] at children
      obtain ⟨elements, rfl⟩ := TypeName.exists_seq_of_classify (children.of_homogeneous ▸ ofType)
      obtain ⟨others, rfl, partsRevised⟩ := revised.of_seq notHere
      have walked : ∀ members,
          (schema.visitElements visit template path 0 members).map (fun _ => ()) =
            firstFailure (schema.partVerdict visit id path) (Value.seq members).parts :=
        visitElements_firstFailure declared 0
      rw [visitParts_elements declared, Except.map_eq_error_iff,
        Except.eq_error_iff_of_map (walked _)] at failed ⊢
      exact partVerdicts_stable places visits ordered partsRevised failed

end Walks

/-! ### The visit of a node -/

/-- Revising a value behind the place at which its visit fails leaves the error as it is. -/
theorem visit_stable (coherent : schema.Coherent) (depth : Nat) (id : NodeId) (value : Value)
    (path : Path) : ∀ rest failure other, value.Ordered → value.Revised (Path.Behind rest) other →
      schema.visit limit depth id value path = .error ⟨path ++ rest, failure⟩ →
        schema.visit limit depth id other path = .error ⟨path ++ rest, failure⟩ := by
  refine visit_induction
    (fun depth id value path verdict => ∀ rest failure other, value.Ordered →
      value.Revised (Path.Behind rest) other → verdict = .error ⟨path ++ rest, failure⟩ →
        schema.visit limit depth id other path = .error ⟨path ++ rest, failure⟩)
    ?beyond ?step depth id value path
  case beyond =>
    intro depth id value path tooDeep rest failure other ordered revised failed
    rw [visit_beyond tooDeep]
    exact failed
  case step =>
    intro depth id value path inLimit below rest failure other ordered revised failed
    cases rest with
    | nil =>
        obtain rfl := revised.eq_of_never fun _ => Path.Behind.nil_not
        exact failed
    | cons segment rest =>
        have beneath : path ++ segment :: rest ≠ path := by simp
        rw [visit_error_beneath_iff coherent inLimit beneath] at failed ⊢
        obtain ⟨ofType, composite, partsFail⟩ := failed
        refine ⟨(revised.classify_eq Path.Behind.not_nil).trans ofType, composite, ?_⟩
        apply visitParts_stable ?places ?visits coherent ofType ordered revised partsFail
        case places => exact visit_error_path coherent (depth + 1)
        case visits =>
          intro child part other place partOrdered partRevised partFails
          exact below child part place rest failure other partOrdered partRevised partFails

end Visits

/-! ## Whole inputs -/

/-- The error of a validation is decided by what stands before it: it stays when any number of
values behind its place are replaced, each by one that is nil and blank exactly when the old one
is. -/
theorem validate_error_stable (built : schema.Built) {config : EngineConfig} {input other : Value}
    {path : Path} {failure : Failure} (ordered : input.Ordered)
    (failed : schema.validate config input = .error ⟨path, failure⟩)
    (revised : input.Revised path.Behind other) :
    schema.validate config other = .error ⟨path, failure⟩ := by
  unfold validate reduce at failed ⊢
  dsimp only at failed ⊢
  rw [revised.resembles.isNil]
  split at failed
  · next missing =>
      rw [if_pos missing]
      exact failed
  · next present =>
      rw [if_neg present]
      exact visit_stable built.coherent 0 root input [] path failure other ordered revised failed

theorem annotated_error_stable :
    annotated.validate {}
        (.map [("meta", .map [("x", .integer 3), ("y", .boolean true)]), ("other", .text "t")]) =
          .error ⟨[.field "meta", .field "x"], .typeMismatch (some .integer) .string⟩ ∧
      annotated.validate {}
        (.map [("meta", .map [("x", .integer 3), ("y", .seq [.nil])]),
          ("other", .map [("z", .integer 1)])]) =
          .error ⟨[.field "meta", .field "x"], .typeMismatch (some .integer) .string⟩ := by
  have failed : annotated.validate {}
      (.map [("meta", .map [("x", .integer 3), ("y", .boolean true)]), ("other", .text "t")]) =
        .error ⟨[.field "meta", .field "x"], .typeMismatch (some .integer) .string⟩ := by
    cbv
  refine ⟨failed, validate_error_stable annotated_built ?ordered failed ?revised⟩
  case ordered =>
    simp only [Value.Ordered, Value.OrderedEntries, Entries.Ascending]
    decide
  case revised =>
    -- The member `y` comes behind `x` within `meta`, and `other` comes behind `meta`.
    refine .map rfl fun index key part other held otherHeld => ?_
    rcases index with _ | _ | index
    · cases held
      cases otherHeld
      refine .map rfl fun index key part other held otherHeld => ?_
      rcases index with _ | _ | index
      · cases held
        cases otherHeld
        exact .same _ _
      · cases held
        cases otherHeld
        exact .replaced (.beneath (.parts (.field (by decide)))) ⟨rfl, rfl⟩
      · cases held
    · cases held
      cases otherHeld
      exact .replaced (.parts (.field (by decide))) ⟨rfl, rfl⟩
    · cases held

end Schema

end ParamSchema
