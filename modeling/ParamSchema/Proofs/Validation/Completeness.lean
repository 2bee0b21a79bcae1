import ParamSchema.Proofs.Validation.Conformance

/-!
Contract: exactly the conforming values pass validation unchanged.

Owns:
- conformance of a value, without an order of evaluation, conversion or leaving out;
- the step at one node: when a value is rebuilt as itself;
- the run over all positions, and with it soundness and completeness.

Does not own: values that validation changes (`Proofs.Validation.Conformance`).
-/

namespace ParamSchema.Schema

/-! ## Conforming values -/

/-- Nothing declared is left out of a value, except that nil holds the place of optional items. -/
def Settles (schema : Schema) (id : NodeId) (value : Value) : Prop :=
  ∀ segment child part, schema.DeclaredPart id value segment child part →
    (schema.node child).skips part = true → schema.Placeholder id child part

/-- What stands beneath a node at some depth keeps under a limit. A part that is left out is not
descended into; a container without declarations passes with all its levels. -/
structure Shallow (schema : Schema) (limit depth : Nat) (id : NodeId) (value : Value) : Prop where
  visited : ∀ segment child part, schema.VisitedPart id value segment child part →
    depth + 1 ≤ limit
  members : (schema.node id).children.isUndeclared = true → ∀ member ∈ value.members,
    member.isScalar = false → depth + 1 + member.levels ≤ limit

/-- A value conforms at a position when it satisfies the schema there, is settled and keeps under
the limit. -/
structure ConformsAt (schema : Schema) (limit depth : Nat) (id : NodeId) (value : Value) :
    Prop where
  satisfies : schema.Satisfies id value
  settles : schema.Settles id value
  shallow : schema.Shallow limit depth id value

/-- A value conforms when it is nil only where the root takes it, and conforms at every declared
position. -/
structure Conforms (schema : Schema) (limit : Nat) (value : Value) : Prop where
  nilRoot : value = .nil → (schema.node root).options.optional = true ∨
    (schema.node root).options.allowNil = true
  positions : ∀ path id part, schema.Position root value path id part →
    schema.ConformsAt limit path.length id part

section Positions

variable {schema : Schema} {limit depth : Nat} {id : NodeId} {path : Path} {input output : Value}

theorem conformsAt_placeholder (optional : (schema.node id).options.optional = true) :
    schema.ConformsAt limit depth id .nil where
  satisfies := satisfies_nil (.nil (.inr (.inl optional)))
  settles := by
    intro segment child part isPart
    cases isPart.within
  shallow := by
    constructor
    · intro segment child part isVisited
      cases isVisited.within
    · intro _ member isMember
      cases isMember

/-- What a visit gives keeps under the limit. -/
theorem VisitStep.shallow (plain : schema.Plain)
    (step : schema.VisitStep limit depth id path input output) :
    schema.Shallow limit depth id output := by
  constructor
  · intro segment child part isVisited
    rcases step.origin isVisited.toDeclaredPart with
      isPlaceholder | ⟨origin, source, -, visitedPart⟩
    · exact absurd isPlaceholder isVisited.not_placeholder
    · exact (visitStep_of_visit plain visitedPart).1
  · intro undeclared member isMember notScalar
    cases step with
    | nil => cases isMember
    | rebuilt _ _ _ rebuilds =>
        obtain ⟨rfl, accepts⟩ := rebuilds.of_isUndeclared undeclared
        rcases accepts member isMember with scalar | ⟨-, fits⟩
        · rw [notScalar] at scalar
          cases scalar
        · exact fits

end Positions

/-! ## Rebuilding a value as itself -/

section Steps

variable {schema : Schema} {limit depth : Nat} {visit : Visitor} {id : NodeId} {path : Path}
  {value : Value}

/-- Where a value is rebuilt as itself, every declared part holds the place of an optional item or
is visited with itself as the result. -/
theorem Rebuilds.self_part (rebuilds : schema.Rebuilds limit depth visit id path value value)
    {segment : Segment} {child : NodeId} {part : Value}
    (isPart : schema.DeclaredPart id value segment child part) :
    schema.Placeholder id child part ∨
      ((schema.node child).skips part = false ∧
        visit child part (path ++ [segment]) = .ok part) := by
  cases value with
  | map entries =>
      obtain ⟨fields, key, declared, rfl, found, member⟩ := isPart.of_map
      have nonempty := List.ne_nil_of_mem (mem_of_lookup_eq_some found)
      obtain ⟨others, results, same, sameResults, -, walked⟩ := rebuilds.of_keyed declared nonempty
      cases same
      cases sameResults
      obtain ⟨-, related⟩ := visitEntries_eq_ok_iff.mp walked
      have allKept := filter_eq_self_of_forall₂ related rfl
      rw [allKept, List.forall₂_same] at related
      obtain ⟨node, lookedUp, kept⟩ :=
        keeps_eq_true_iff.mp (List.filter_eq_self.mp allKept (key, part) member)
      cases found.symm.trans lookedUp
      obtain ⟨-, node, lookedUp, visited⟩ := related (key, part) member
      cases found.symm.trans lookedUp
      exact .inr ⟨kept, visited⟩
  | seq elements =>
      obtain ⟨index, rfl, held, ⟨items, declared, found⟩ | declared⟩ := isPart.of_seq
      · have nonempty := List.ne_nil_of_mem (List.mem_of_getElem? found)
        obtain ⟨others, results, same, sameResults, present, walked⟩ :=
          rebuilds.of_positional declared nonempty
        cases same
        cases sameResults
        obtain ⟨result, inResults, becomes⟩ := visitItems_image walked found held
        cases held.symm.trans inResults
        rcases becomes with ⟨skipped, isNil⟩ | ⟨kept, visited⟩
        · exact .inl ⟨isNil, optional_of_skipped present found held skipped, items, declared⟩
        · exact .inr ⟨kept, visited⟩
      · obtain ⟨others, results, same, sameResults, walked⟩ := rebuilds.of_homogeneous declared
        cases same
        cases sameResults
        have related := visitElements_eq_ok_iff.mp walked
        have allKept := filter_eq_self_of_forall₂ related List.length_zipIdx
        rw [allKept] at related
        have inAll : elements.zipIdx[index]? = some (part, index) := by
          rw [List.getElem?_zipIdx, held, Option.map_some, Nat.zero_add]
        have kept := List.filter_eq_self.mp allKept (part, index) (List.mem_of_getElem? inAll)
        exact .inr ⟨by simpa using kept,
          (forall₂_iff_getElem?.mp related).2 index (part, index) part inAll held⟩
  | nil | boolean | integer | float | text => cases isPart.within

/-- A value stays as it is at a node when it conforms there, and its parts that are visited come out
as themselves. -/
structure Stays (schema : Schema) (limit depth : Nat) (visit : Visitor) (id : NodeId) (path : Path)
    (value : Value) : Prop extends ConformsAt schema limit depth id value where
  parts : ∀ segment child part, schema.VisitedPart id value segment child part →
    visit child part (path ++ [segment]) = .ok part

namespace Stays

variable (stays : schema.Stays limit depth visit id path value)

include stays

theorem acceptsMember (undeclared : (schema.node id).children.isUndeclared = true) {member : Value}
    (isMember : member ∈ value.members) :
    (schema.node id).AcceptsMember limit (depth + 1) member := by
  by_cases scalar : member.isScalar
  · exact .inl scalar
  · have allowed := (stays.satisfies.members undeclared member isMember).resolve_left scalar
    exact .inr ⟨allowed, stays.shallow.members undeclared member isMember (by simpa using scalar)⟩

/-- Only items leave nil in a place, so a part that is not at the place of an optional item is
kept. -/
theorem kept {segment : Segment} {child : NodeId} {part : Value}
    (isPart : schema.DeclaredPart id value segment child part)
    (notPlaceholder : (schema.node child).options.optional = true →
      ∀ items, (schema.node id).children ≠ .positional items) :
    (schema.node child).skips part = false := by
  by_contra skipped
  obtain ⟨-, optional, items, declared⟩ :=
    stays.settles segment child part isPart (by simpa using skipped)
  exact notPlaceholder optional items declared

theorem rebuilds_fields (coherent : schema.Coherent) {fields : List (String × NodeId)}
    {entries : List (String × Value)} (isMap : value = .map entries)
    (declared : (schema.node id).children = .keyed fields) (nonempty : fields ≠ []) :
    schema.Rebuilds limit depth visit id path value value := by
  subst isMap
  have keptPart : ∀ key child part, fields.lookup key = some child → (key, part) ∈ entries →
      (schema.node child).skips part = false ∧
        visit child part (path ++ [.field key]) = .ok part := by
    intro key child part found member
    have isPart := declaredPart_field declared found member
    have kept := stays.kept isPart fun _ items => by rw [declared]; exact Children.noConfusion
    exact ⟨kept, stays.parts _ child part ⟨isPart, kept⟩⟩
  have declaredKey : ∀ entry ∈ entries, ∃ child, fields.lookup entry.1 = some child := by
    intro entry member
    obtain ⟨child, isField⟩ :=
      stays.satisfies.keys fields entries declared nonempty rfl entry.1 entry.2 member
    exact ⟨child, coherent.lookup_eq_some declared isField⟩
  have present : schema.missingKey? fields entries = none := by
    refine missingKey?_eq_none_iff.mpr fun key child isField required => ?_
    obtain ⟨part, member⟩ :=
      stays.satisfies.requiredKeys fields entries declared rfl key child isField required
    obtain ⟨first, held⟩ := Option.isSome_iff_exists.mp
      (List.lookup_isSome_iff.mpr ⟨(key, part), member, BEq.rfl⟩)
    exact ⟨first, held, (keptPart key child first (coherent.lookup_eq_some declared isField)
      (mem_of_lookup_eq_some held)).1⟩
  have allKept : entries.filter (schema.keeps fields) = entries := by
    refine List.filter_eq_self.mpr fun entry member => ?_
    obtain ⟨child, found⟩ := declaredKey entry member
    exact keeps_eq_true_iff.mpr ⟨child, found, (keptPart _ child _ found member).1⟩
  refine .fields declared nonempty present (visitEntries_eq_ok_iff.mpr ⟨?_, ?_⟩)
  · intro _ entry member absent
    obtain ⟨child, found⟩ := declaredKey entry member
    rw [absent] at found
    cases found
  · rw [allKept, List.forall₂_same]
    intro entry member
    obtain ⟨child, found⟩ := declaredKey entry member
    exact ⟨rfl, child, found, (keptPart _ child _ found member).2⟩

theorem rebuilds_items {items : List NodeId} {elements : List Value}
    (isSeq : value = .seq elements) (declared : (schema.node id).children = .positional items)
    (nonempty : items ≠ []) : schema.Rebuilds limit depth visit id path value value := by
  subst isSeq
  have notMore := stays.satisfies.length items elements declared nonempty rfl
  have present : schema.itemMissing items elements = false := by
    refine itemMissing_eq_false_iff.mpr fun index child found required => ?_
    have inRange := stays.satisfies.requiredItems items elements declared rfl index child found
      required
    have held := List.getElem?_eq_getElem inRange
    refine ⟨_, held, stays.kept (declaredPart_item declared found held) fun optional => ?_⟩
    rw [Node.isRequired, optional] at required
    cases required
  refine .items declared nonempty present (visitItems_eq_ok_iff.mpr ⟨fun _ => notMore, ?_⟩)
  refine forall₂_iff_getElem?.mpr ⟨?_, ?_⟩
  · rw [List.length_zipIdx, List.length_zip, Nat.min_eq_right notMore]
  · intro index slot part inSlots held
    obtain ⟨⟨child, element⟩, place⟩ := slot
    obtain ⟨found, inElements, rfl⟩ := getElem?_slots.mp inSlots
    cases held.symm.trans inElements
    have isPart := declaredPart_item declared found held
    by_cases skipped : (schema.node child).skips element
    · exact .inl ⟨skipped, (stays.settles _ child element isPart skipped).1⟩
    · have kept : (schema.node child).skips element = false := by simpa using skipped
      exact .inr ⟨kept, stays.parts _ child element ⟨isPart, kept⟩⟩

theorem rebuilds_elements {template : NodeId} {elements : List Value}
    (isSeq : value = .seq elements) (declared : (schema.node id).children = .homogeneous template) :
    schema.Rebuilds limit depth visit id path value value := by
  subst isSeq
  have keptPart : ∀ {index : Nat} {part : Value}, elements[index]? = some part →
      (schema.node template).skips part = false ∧
        visit template part (path ++ [.index index]) = .ok part := by
    intro index part held
    have isPart := declaredPart_element declared held
    have kept := stays.kept isPart fun _ items => by rw [declared]; exact Children.noConfusion
    exact ⟨kept, stays.parts _ template part ⟨isPart, kept⟩⟩
  have allKept : (elements.zipIdx.filter fun element =>
      !(schema.node template).skips element.1) = elements.zipIdx := by
    refine List.filter_eq_self.mpr fun element member => ?_
    simpa using (keptPart (List.mem_zipIdx_iff_getElem?.mp member)).1
  refine .elements declared (visitElements_eq_ok_iff.mpr ?_)
  rw [allKept]
  refine forall₂_iff_getElem?.mpr ⟨List.length_zipIdx, ?_⟩
  intro index slot part inSlots held
  rw [List.getElem?_zipIdx, held, Option.map_some, Nat.zero_add] at inSlots
  cases inSlots
  exact (keptPart held).2

/-- A value of the type of a node that stays is rebuilt as itself. -/
theorem rebuilds (coherent : schema.Coherent)
    (ofType : TypeName.classify value = some (schema.node id).type) :
    schema.Rebuilds limit depth visit id path value value := by
  have children := coherent.ofType id
  cases declared : (schema.node id).children with
  | scalar =>
      rw [declared] at children
      exact .leaf declared ((TypeName.isScalar_of_classify ofType).trans children.of_scalar)
  | keyed fields =>
      rw [declared] at children
      rw [children.of_keyed] at ofType
      obtain ⟨entries, rfl⟩ := TypeName.exists_map_of_classify ofType
      by_cases undeclared : fields = []
      · subst undeclared
        refine .openMap declared fun entry member => ?_
        exact stays.acceptsMember (by rw [declared]; rfl) (List.mem_map_of_mem member)
      · exact stays.rebuilds_fields coherent rfl declared undeclared
  | positional items =>
      rw [declared] at children
      rw [children.of_positional] at ofType
      obtain ⟨elements, rfl⟩ := TypeName.exists_seq_of_classify ofType
      by_cases undeclared : items = []
      · subst undeclared
        exact .openSeq declared fun element member =>
          stays.acceptsMember (by rw [declared]; rfl) member
      · exact stays.rebuilds_items rfl declared undeclared
  | homogeneous template =>
      rw [declared] at children
      rw [children.of_homogeneous] at ofType
      obtain ⟨elements, rfl⟩ := TypeName.exists_seq_of_classify ofType
      exact stays.rebuilds_elements rfl declared

end Stays

end Steps

/-! ## One node -/

section Node

variable {schema : Schema} {limit depth : Nat} {id : NodeId} {path : Path} {value : Value}

/-- The visit of a node gives a value back exactly when it is not too deep and the value stays. -/
theorem visit_eq_self_iff (coherent : schema.Coherent) (plain : schema.Plain) :
    schema.visit limit depth id value path = .ok value ↔
      depth ≤ limit ∧ schema.Stays limit depth (schema.visit limit (depth + 1)) id path value := by
  constructor
  · intro visited
    obtain ⟨inLimit, step⟩ := visitStep_of_visit plain visited
    have selfPart : ∀ {segment child part}, schema.DeclaredPart id value segment child part →
        schema.Placeholder id child part ∨
          ((schema.node child).skips part = false ∧
            schema.visit limit (depth + 1) child part (path ++ [segment]) = .ok part) := by
      intro segment child part isPart
      have container := isPart.within.isScalar_eq_false
      exact (step.rebuilds_of_container (.inl container)).self_part isPart
    refine ⟨inLimit, ⟨step.satisfies coherent, ?settles, step.shallow plain⟩, ?parts⟩
    case settles =>
      intro segment child part isPart skipped
      rcases selfPart isPart with isPlaceholder | ⟨kept, -⟩
      · exact isPlaceholder
      · rw [kept] at skipped
        cases skipped
    case parts =>
      intro segment child part isVisited
      rcases selfPart isVisited.toDeclaredPart with isPlaceholder | ⟨-, visitedPart⟩
      · exact absurd isPlaceholder isVisited.not_placeholder
      · exact visitedPart
  · rintro ⟨inLimit, stays⟩
    cases stays.satisfies.fits with
    | nil takesNil => exact visit_nil inLimit (Node.acceptsNil_eq_true_iff.mpr takesNil)
    | ofType ofType included passes =>
        by_cases isNil : value = .nil
        · subst isNil
          have isNilType : (schema.node id).type = .nil := (Option.some.inj ofType).symm
          exact visit_nil inLimit (Node.acceptsNil_eq_true_iff.mpr (.inl isNilType))
        · exact visit_rebuilt plain inLimit isNil ofType (stays.rebuilds coherent ofType)
            (Node.includes_eq_true_iff.mpr included) (Node.verdict_eq_ok_iff.mpr passes)

end Node

/-! ## All positions -/

section Runs

variable {schema : Schema} {limit : Nat} {id : NodeId} {value : Value}

/-- Where a value is given back, it conforms at every position. -/
theorem conformsAt_of_position (coherent : schema.Coherent) (plain : schema.Plain) {route : Path}
    {found : NodeId} {part : Value} (position : schema.Position id value route found part) :
    ∀ {depth : Nat} {path : Path}, schema.visit limit depth id value path = .ok value →
      schema.ConformsAt limit (depth + route.length) found part := by
  induction position with
  | here id value =>
      intro depth path visited
      obtain ⟨-, stays⟩ := (visit_eq_self_iff coherent plain).mp visited
      exact stays.toConformsAt
  | @beneath id child found value part target segment route first rest inductionHypothesis =>
      intro depth path visited
      obtain ⟨-, stays⟩ := (visit_eq_self_iff coherent plain).mp visited
      by_cases skipped : (schema.node child).skips part
      · obtain ⟨rfl, optional, -⟩ := stays.settles segment child part first skipped
        obtain ⟨-, rfl, rfl⟩ := rest.of_nil
        exact conformsAt_placeholder optional
      · have visitedPart := stays.parts segment child part ⟨first, by simpa using skipped⟩
        rw [List.length_cons, ← Nat.add_assoc, Nat.add_right_comm]
        exact inductionHypothesis visitedPart

/-- Where a value conforms at every position, it is given back. The induction is on the depth that
remains. -/
theorem visit_eq_self_of_positions (coherent : schema.Coherent) (plain : schema.Plain)
    (remaining : Nat) : ∀ {depth : Nat} {id : NodeId} {value : Value} {path : Path},
      depth + remaining = limit →
      (∀ route found part, schema.Position id value route found part →
        schema.ConformsAt limit (depth + route.length) found part) →
      schema.visit limit depth id value path = .ok value := by
  induction remaining with
  | zero =>
      intro depth id value path isLimit positions
      have conforms := positions [] id value (.here id value)
      refine (visit_eq_self_iff coherent plain).mpr ⟨Nat.le_of_eq isLimit, conforms, ?_⟩
      intro segment child part isVisited
      have deeper := conforms.shallow.visited segment child part isVisited
      rw [List.length_nil] at deeper
      omega
  | succ remaining inductionHypothesis =>
      intro depth id value path isLimit positions
      have conforms := positions [] id value (.here id value)
      refine (visit_eq_self_iff coherent plain).mpr ⟨by omega, conforms, ?_⟩
      intro segment child part isVisited
      refine inductionHypothesis (by omega) fun route found target position => ?_
      have beneath := positions (segment :: route) found target
        (.beneath isVisited.toDeclaredPart position)
      rw [List.length_cons, ← Nat.add_assoc, Nat.add_right_comm] at beneath
      exact beneath

end Runs

/-! ## Soundness and completeness -/

section Whole

variable {schema : Schema}

theorem visit_root_eq_self_iff (coherent : schema.Coherent) (plain : schema.Plain) {limit : Nat}
    {value : Value} : schema.visit limit 0 root value [] = .ok value ↔
      ∀ path id part, schema.Position root value path id part →
        schema.ConformsAt limit path.length id part := by
  constructor
  · intro visited path id part position
    have conforms := conformsAt_of_position coherent plain position visited
    rw [Nat.zero_add] at conforms
    exact conforms
  · intro positions
    refine visit_eq_self_of_positions coherent plain limit (Nat.zero_add _) ?_
    intro route found part position
    rw [Nat.zero_add]
    exact positions route found part position

/-- Validation gives a value back exactly when the value conforms. -/
theorem validate_eq_self_iff_conforms (built : schema.Built) (plain : schema.Plain)
    (config : EngineConfig) (value : Value) :
    schema.validate config value = .ok value ↔ schema.Conforms config.depthLimit value := by
  rw [validate_eq_ok_iff, visit_root_eq_self_iff built.coherent plain]
  constructor
  · rintro ⟨nilRoot, positions⟩
    exact ⟨nilRoot, positions⟩
  · rintro ⟨nilRoot, positions⟩
    exact ⟨nilRoot, positions⟩

theorem annotated_set_conforms :
    annotated.Conforms 64 (.map [("meta", .map [("x", .text "y")])]) :=
  (validate_eq_self_iff_conforms annotated_built annotated_plain {} _).mp validate_annotated_set

end Whole

end ParamSchema.Schema
