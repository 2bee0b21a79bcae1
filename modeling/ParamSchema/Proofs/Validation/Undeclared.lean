import Mathlib.Data.List.Find
import ParamSchema.Proofs.Validation.Resemblance
import ParamSchema.Proofs.Validation.Walks
import ParamSchema.Validation.Validator

/-!
Contract: a schema that is not strict does not read what it does not declare.

Owns:
- what a walk over fields or items reads of a map or a list;
- values that differ in undeclared data alone, at any depth;
- that such inputs have the same verdict.

Does not own: values that a parent cannot tell apart (`Proofs.Validation.Resemblance`).
-/

namespace ParamSchema

namespace Schema

variable {schema : Schema}

/-! ## Declared data -/

/-- The entries of a map whose keys are declared. -/
def declaredEntries (fields : List (String × NodeId)) (entries : List (String × Value)) :
    List (String × Value) :=
  entries.filter fun entry => (fields.lookup entry.1).isSome

/-- Two values for a node differ in undeclared data alone: in entries under undeclared keys of maps
beneath declared fields, where the maps are both empty or both not, and in elements behind the
declared items of lists. Whatever is declared is the same, or differs in undeclared data alone. -/
inductive SameDeclared (schema : Schema) : NodeId → Value → Value → Prop where
  | same (id : NodeId) (value : Value) : SameDeclared schema id value value
  | fields {id : NodeId} {fields : List (String × NodeId)} {entries others : List (String × Value)}
      (declared : (schema.node id).children = .keyed fields) (nonempty : fields ≠ [])
      (emptiness : others.isEmpty = entries.isEmpty)
      (keys : (declaredEntries fields others).map Prod.fst =
        (declaredEntries fields entries).map Prod.fst)
      (parts : ∀ (index : Nat) key child part other, fields.lookup key = some child →
        (declaredEntries fields entries)[index]? = some (key, part) →
        (declaredEntries fields others)[index]? = some (key, other) →
          SameDeclared schema child part other) :
      SameDeclared schema id (.map entries) (.map others)
  | items {id : NodeId} {items : List NodeId} {elements others : List Value}
      (declared : (schema.node id).children = .positional items) (nonempty : items ≠ [])
      (length : (others.take items.length).length = (elements.take items.length).length)
      (parts : ∀ (index : Nat) child part other, items[index]? = some child →
        elements[index]? = some part → others[index]? = some other →
          SameDeclared schema child part other) :
      SameDeclared schema id (.seq elements) (.seq others)
  | elements {id template : NodeId} {elements others : List Value}
      (declared : (schema.node id).children = .homogeneous template)
      (length : others.length = elements.length)
      (parts : ∀ (index : Nat) part other, elements[index]? = some part →
        others[index]? = some other → SameDeclared schema template part other) :
      SameDeclared schema id (.seq elements) (.seq others)

/-- A parent cannot tell apart values that differ in undeclared data alone. -/
theorem SameDeclared.resembles {id : NodeId} {value other : Value}
    (alike : schema.SameDeclared id value other) : value.Resembles other := by
  cases alike with
  | same => exact ⟨rfl, rfl⟩
  | fields declared nonempty emptiness keys parts => exact ⟨rfl, emptiness⟩
  | elements declared length parts => exact ⟨rfl, isEmpty_eq_of_length_eq length⟩
  | @items _ items elements others declared nonempty length parts =>
      have someItem : 0 < items.length := List.length_pos_iff.mpr nonempty
      have sameLength : min items.length others.length = min items.length elements.length := by
        simpa only [List.length_take] using length
      refine ⟨rfl, ?_⟩
      show others.isEmpty = elements.isEmpty
      rw [Bool.eq_iff_iff, List.isEmpty_iff_length_eq_zero, List.isEmpty_iff_length_eq_zero]
      omega

/-! ## Walks without undeclared data -/

section Walks

variable {visit : Visitor} {path : Path}

theorem lookup_declaredEntries {fields : List (String × NodeId)} {key : String}
    (declared : (fields.lookup key).isSome = true) (entries : List (String × Value)) :
    (declaredEntries fields entries).lookup key = entries.lookup key := by
  induction entries with
  | nil => rfl
  | cons entry rest inductionHypothesis =>
      obtain ⟨otherKey, value⟩ := entry
      by_cases isKey : key = otherKey
      · subst isKey
        simp [declaredEntries, declared]
      · have passed : ∀ tail, ((otherKey, value) :: tail).lookup key = tail.lookup key := by
          have isOther : (key == otherKey) = false := beq_eq_false_iff_ne.mpr isKey
          simp [List.lookup_cons, isOther]
        rw [passed, ← inductionHypothesis, declaredEntries, declaredEntries, List.filter_cons]
        split
        · exact passed _
        · rfl

theorem missingKey?_declaredEntries (fields : List (String × NodeId))
    (entries : List (String × Value)) :
    schema.missingKey? fields (declaredEntries fields entries) =
      schema.missingKey? fields entries := by
  unfold missingKey?
  congr 1
  apply List.find?_congr
  intro field isField
  have declared : (fields.lookup field.1).isSome = true := by
    rw [List.lookup_isSome_iff]
    exact ⟨field, isField, beq_self_eq_true field.1⟩
  unfold fieldMissing
  rw [lookup_declaredEntries declared]

variable (isOpen : schema.strict = false)

include isOpen

theorem visitEntries_declaredEntries (fields : List (String × NodeId))
    (entries : List (String × Value)) :
    schema.visitEntries visit fields path (declaredEntries fields entries) =
      schema.visitEntries visit fields path entries := by
  induction entries with
  | nil => rfl
  | cons entry rest inductionHypothesis =>
      obtain ⟨key, value⟩ := entry
      cases found : fields.lookup key with
      | none =>
          have dropped : declaredEntries fields ((key, value) :: rest) =
              declaredEntries fields rest := by simp [declaredEntries, found]
          rw [dropped, inductionHypothesis, visitEntries_undeclared found, isOpen]
          rfl
      | some child =>
          have kept : declaredEntries fields ((key, value) :: rest) =
              (key, value) :: declaredEntries fields rest := by simp [declaredEntries, found]
          rw [kept, visitEntries_declared found, visitEntries_declared found, inductionHypothesis]

theorem visitItems_behind (index : Nat) (elements : List Value) :
    schema.visitItems visit path index [] elements = .ok [] := by
  induction elements generalizing index with
  | nil => rw [visitItems]
  | cons value rest inductionHypothesis =>
      rw [visitItems_undeclared, isOpen]
      exact inductionHypothesis (index + 1)

end Walks

/-! ## Walks over values that are visited alike -/

/-- A parent cannot tell two values apart, and the visits of a child give the same for both. -/
structure VisitedAlike (visit : Visitor) (child : NodeId) (part other : Value) : Prop where
  resembles : part.Resembles other
  visited : ∀ path, visit child other path = visit child part path

/-- Two values under one declared key are visited alike. -/
def AlikeUnder (visit : Visitor) (fields : List (String × NodeId)) (key : String)
    (part other : Value) : Prop :=
  ∃ child, fields.lookup key = some child ∧ VisitedAlike visit child part other

section Alike

variable {visit : Visitor} {path : Path}

theorem visitEntries_of_alike {fields : List (String × NodeId)}
    {entries others : List (String × Value)}
    (alike : List.Forall₂ (fun entry other => other.1 = entry.1 ∧
      AlikeUnder visit fields entry.1 entry.2 other.2) entries others) :
    schema.visitEntries visit fields path others =
      schema.visitEntries visit fields path entries := by
  induction alike with
  | nil => rfl
  | @cons entry other entries others head rest inductionHypothesis =>
      obtain ⟨key, part⟩ := entry
      obtain ⟨otherKey, other⟩ := other
      obtain ⟨sameKey, child, found, headAlike⟩ := head
      dsimp only at sameKey found headAlike
      subst sameKey
      rw [visitEntries_declared found, visitEntries_declared found,
        Node.skips_eq_of_resembles headAlike.resembles, headAlike.visited, inductionHypothesis]

/-- Two maps are walked alike where their declared entries are. -/
theorem visitMap_of_alike (isOpen : schema.strict = false) {fields : List (String × NodeId)}
    {entries others : List (String × Value)}
    (alike : List.Forall₂ (fun entry other => other.1 = entry.1 ∧
      AlikeUnder visit fields entry.1 entry.2 other.2)
        (declaredEntries fields entries) (declaredEntries fields others)) :
    schema.visitMap visit fields others path = schema.visitMap visit fields entries path := by
  have sameMissing : schema.missingKey? fields others = schema.missingKey? fields entries := by
    rw [← missingKey?_declaredEntries fields others, ← missingKey?_declaredEntries fields entries]
    apply missingKey?_of_resembling
    rw [Value.parts, Value.parts, List.forall₂_map_left_iff, List.forall₂_map_right_iff]
    apply alike.imp
    rintro entry other ⟨sameKey, child, found, headAlike⟩
    exact ⟨congrArg Segment.field sameKey, headAlike.resembles⟩
  have sameWalk : schema.visitEntries visit fields path others =
      schema.visitEntries visit fields path entries := by
    rw [← visitEntries_declaredEntries isOpen fields others,
      ← visitEntries_declaredEntries isOpen fields entries]
    exact visitEntries_of_alike alike
  rw [visitMap, visitMap, sameMissing, sameWalk]

theorem visitElements_of_alike {template : NodeId} (index : Nat) {elements others : List Value}
    (alike : List.Forall₂ (VisitedAlike visit template) elements others) :
    schema.visitElements visit template path index others =
      schema.visitElements visit template path index elements := by
  induction alike generalizing index with
  | nil => rfl
  | cons head rest inductionHypothesis =>
      rw [visitElements_cons, visitElements_cons, Node.skips_eq_of_resembles head.resembles,
        head.visited, inductionHypothesis]

/-- Behind the items nothing is read. -/
theorem visitItems_of_alike (isOpen : schema.strict = false) (index : Nat) (items : List NodeId)
    {elements others : List Value}
    (length : (others.take items.length).length = (elements.take items.length).length)
    (alike : ∀ (offset : Nat) child part other, items[offset]? = some child →
      elements[offset]? = some part → others[offset]? = some other →
        VisitedAlike visit child part other) :
    schema.visitItems visit path index items others =
      schema.visitItems visit path index items elements := by
  induction items generalizing index elements others with
  | nil => rw [visitItems_behind isOpen, visitItems_behind isOpen]
  | cons child children inductionHypothesis =>
      match elements, others with
      | [], [] => rfl
      | [], _ :: _ | _ :: _, [] => simp at length
      | part :: parts, other :: others =>
          have head := alike 0 child part other rfl rfl rfl
          have rest : schema.visitItems visit path (index + 1) children others =
              schema.visitItems visit path (index + 1) children parts := by
            apply inductionHypothesis
            · simpa using length
            · intro offset
              exact alike (offset + 1)
          rw [visitItems_declared, visitItems_declared, Node.skips_eq_of_resembles head.resembles,
            head.visited, rest]

/-- Two lists are walked alike where their elements at the places of items are. -/
theorem visitSeq_of_alike (isOpen : schema.strict = false) {items : List NodeId}
    {elements others : List Value}
    (length : (others.take items.length).length = (elements.take items.length).length)
    (alike : ∀ (offset : Nat) child part other, items[offset]? = some child →
      elements[offset]? = some part → others[offset]? = some other →
        VisitedAlike visit child part other) :
    schema.visitSeq visit items others path = schema.visitSeq visit items elements path := by
  have sameMissing : schema.itemMissing items others = schema.itemMissing items elements := by
    apply itemMissing_of_resembling items length
    intro index part other inItems held otherHeld
    have isItem : items[index]? = some items[index] := List.getElem?_eq_getElem inItems
    exact (alike index _ part other isItem held otherHeld).resembles
  rw [visitSeq, visitSeq, sameMissing, visitItems_of_alike isOpen 0 items length alike]

end Alike

/-! ## Visits -/

section Visits

variable {limit : Nat} (isOpen : schema.strict = false)

include isOpen

/-- The visit of a node gives the same for values that differ in undeclared data alone. -/
theorem visit_of_sameDeclared (depth : Nat) (id : NodeId) (value : Value) (path : Path) :
    ∀ other, schema.SameDeclared id value other →
      schema.visit limit depth id other path = schema.visit limit depth id value path := by
  refine visit_induction
    (fun depth id value path verdict => ∀ other, schema.SameDeclared id value other →
      schema.visit limit depth id other path = verdict)
    ?beyond ?step depth id value path
  case beyond =>
    intro depth id value path tooDeep other alike
    exact visit_beyond tooDeep other
  case step =>
    intro depth id value path inLimit below other alike
    have alikeBelow : ∀ child part other, schema.SameDeclared child part other →
        VisitedAlike (schema.visit limit (depth + 1)) child part other := by
      intro child part other partAlike
      exact ⟨partAlike.resembles, fun place => below child part place other partAlike⟩
    -- Containers of one type are refused alike for it, and otherwise told apart by their parts.
    have ofParts : ∀ container otherContainer observed,
        TypeName.classify container = some observed →
        TypeName.classify otherContainer = some observed → observed.isScalar = false →
        schema.visitParts limit depth (schema.visit limit (depth + 1)) (schema.node id)
            otherContainer path =
          schema.visitParts limit depth (schema.visit limit (depth + 1)) (schema.node id)
            container path →
        schema.visit limit depth id otherContainer path =
          schema.visit limit depth id container path := by
      intro container otherContainer observed ofType otherOfType composite sameParts
      rw [visit_container inLimit ofType composite, visit_container inLimit otherOfType composite,
        sameParts]
    cases alike with
    | same => rfl
    | @fields _ fields entries others declared nonempty emptiness keys parts =>
        apply ofParts (.map entries) (.map others) .object rfl rfl rfl
        rw [visitParts_fields declared nonempty, visitParts_fields declared nonempty]
        apply visitMap_of_alike isOpen
        apply forall₂_entries keys
        intro index key part other held otherHeld
        have isDeclared := (List.mem_filter.mp (List.mem_of_getElem? held)).2
        obtain ⟨child, found⟩ := Option.isSome_iff_exists.mp isDeclared
        exact ⟨child, found, alikeBelow child part other
          (parts index key child part other found held otherHeld)⟩
    | @items _ items elements others declared nonempty length parts =>
        apply ofParts (.seq elements) (.seq others) .array rfl rfl rfl
        rw [visitParts_items declared nonempty, visitParts_items declared nonempty]
        apply visitSeq_of_alike isOpen length
        intro index child part other isItem held otherHeld
        exact alikeBelow child part other (parts index child part other isItem held otherHeld)
    | @elements _ template elements others declared length parts =>
        apply ofParts (.seq elements) (.seq others) .array rfl rfl rfl
        have alike : List.Forall₂ (VisitedAlike (schema.visit limit (depth + 1)) template) elements
            others := by
          apply forall₂_iff_getElem?.mpr
          refine ⟨length.symm, fun index part other held otherHeld => ?_⟩
          exact alikeBelow template part other (parts index part other held otherHeld)
        rw [visitParts_elements declared, visitParts_elements declared,
          visitElements_of_alike 0 alike]

/-! ## Whole inputs -/

/-- A schema that is not strict gives the same verdict on any two inputs that differ in undeclared
data alone: the same output, or the same failure at the same place. -/
theorem validate_of_sameDeclared (config : EngineConfig) {input other : Value}
    (alike : schema.SameDeclared root input other) :
    schema.validate config other = schema.validate config input := by
  unfold validate reduce
  rw [alike.resembles.isNil, visit_of_sameDeclared isOpen 0 root input [] other alike]

end Visits

/-! ### A sighting with remarks -/

/-- A pair of coordinates and a tag, with anything else left out. -/
def sighting : Schema where
  nodes := #[
    { key := none, parent := none, type := .object, options := {},
      children := .keyed [("at", 1), ("tag", 4)] },
    { key := some (.field "at"), parent := some 0, type := .array, options := {},
      children := .positional [2, 3] },
    { key := some (.index 0), parent := some 1, type := .integer, options := {},
      children := .scalar },
    { key := some (.index 1), parent := some 1, type := .integer, options := {},
      children := .scalar },
    { key := some (.field "tag"), parent := some 0, type := .object, options := {},
      children := .keyed [("name", 5)] },
    { key := some (.field "name"), parent := some 4, type := .string, options := {},
      children := .scalar }]
  strict := false

/-- What is written beside the tag and the name, and behind the coordinates, is not read. -/
theorem sighting_remarks_unread :
    sighting.validate {}
        (.map [("at", .seq [.integer 1, .integer 2, .map [("exact", .nil)]]),
          ("remark", .seq [.text "far"]),
          ("tag", .map [("name", .text "a"), ("since", .integer 3)])]) =
      sighting.validate {}
        (.map [("at", .seq [.integer 1, .integer 2]), ("tag", .map [("name", .text "a")])]) := by
  apply validate_of_sameDeclared rfl
  refine .fields rfl (by decide) rfl rfl ?_
  intro index key child part other found held otherHeld
  match index with
  | 0 =>
      cases held
      cases otherHeld
      cases found
      refine .items rfl (by decide) rfl ?_
      intro index child part other isItem held otherHeld
      match index with
      | 0 | 1 =>
          cases held
          cases otherHeld
          exact .same _ _
  | 1 =>
      cases held
      cases otherHeld
      cases found
      refine .fields rfl (by decide) rfl rfl ?_
      intro index key child part other found held otherHeld
      match index with
      | 0 =>
          cases held
          cases otherHeld
          exact .same _ _

end Schema

end ParamSchema
