import ParamSchema.Proofs.Schema.Position
import ParamSchema.Proofs.Validation.Members

/-!
Contract: what a parent sees of a value without visiting it.

Owns:
- the parts of a value in order;
- values that resemble each other: a node leaves out both or neither;
- that maps and lists of parts that resemble each other miss the same fields and items.

Does not own: how two values that resemble each other may differ beneath.
-/

namespace ParamSchema

/-! ## Parts in order -/

namespace Value

/-- The elements of a list with the steps to them, counted from an index on. -/
def partsFrom (index : Nat) (elements : List Value) : List (Segment × Value) :=
  (elements.zipIdx index).map fun element => (.index element.2, element.1)

theorem partsFrom_cons (index : Nat) (element : Value) (rest : List Value) :
    partsFrom index (element :: rest) = (.index index, element) :: partsFrom (index + 1) rest := by
  rw [partsFrom, List.zipIdx_cons, List.map_cons, partsFrom]

theorem getElem?_partsFrom (start : Nat) (elements : List Value) (index : Nat) :
    (partsFrom start elements)[index]? =
      elements[index]?.map fun element => (.index (start + index), element) := by
  simp [partsFrom, Function.comp_def]

/-- The parts of a value in their order, each with the step to it. -/
def parts : Value → List (Segment × Value)
  | .map entries => entries.map fun entry => (.field entry.1, entry.2)
  | .seq elements => partsFrom 0 elements
  | _ => []

theorem mem_parts_iff {value part : Value} {segment : Segment} :
    (segment, part) ∈ value.parts ↔ value.Part segment part := by
  constructor
  · intro member
    cases value with
    | map entries =>
        obtain ⟨⟨key, held⟩, inEntries, same⟩ := List.mem_map.mp member
        cases same
        exact .entry inEntries
    | seq elements =>
        obtain ⟨⟨held, index⟩, inElements, same⟩ := List.mem_map.mp member
        cases same
        exact .element (List.mk_mem_zipIdx_iff_getElem?.mp inElements)
    | nil | boolean | integer | float | text => cases member
  · intro isPart
    cases isPart with
    | entry member => exact List.mem_map.mpr ⟨_, member, rfl⟩
    | element held =>
        exact List.mem_map.mpr ⟨_, List.mk_mem_zipIdx_iff_getElem?.mpr held, rfl⟩

/-! ## Resemblance -/

/-- A parent cannot tell two values apart without visiting them: both are nil or neither is, and
both are blank or neither is. -/
structure Resembles (value other : Value) : Prop where
  isNil : other.isNil = value.isNil
  isBlank : other.isBlank = value.isBlank

end Value

theorem isEmpty_eq_of_length_eq {α β : Type} {left : List α} {right : List β}
    (same : left.length = right.length) : left.isEmpty = right.isEmpty := by
  rw [Bool.eq_iff_iff, List.isEmpty_iff_length_eq_zero, List.isEmpty_iff_length_eq_zero, same]

/-- Entries of the same keys line up. -/
theorem forall₂_entries {Related : String → Value → Value → Prop}
    {entries others : List (String × Value)} (keys : others.map Prod.fst = entries.map Prod.fst)
    (related : ∀ (index : Nat) key part other, entries[index]? = some (key, part) →
      others[index]? = some (key, other) → Related key part other) :
    List.Forall₂ (fun entry other => other.1 = entry.1 ∧ Related entry.1 entry.2 other.2) entries
      others := by
  refine forall₂_iff_getElem?.mpr ⟨by simpa using (congrArg List.length keys).symm, ?_⟩
  rintro index ⟨key, part⟩ ⟨otherKey, other⟩ held otherHeld
  have sameKey : otherKey = key := by
    have atIndex := congrArg (·[index]?) keys
    simpa [held, otherHeld] using atIndex
  subst sameKey
  exact ⟨rfl, related index otherKey part other held otherHeld⟩

theorem Node.skips_eq_of_resembles {node : Node} {value other : Value}
    (resembles : value.Resembles other) : node.skips other = node.skips value := by
  rw [skips, skips, resembles.isNil, resembles.isBlank]

namespace Schema

variable {schema : Schema}

/-- Parts under the same steps that resemble each other. -/
def ResemblingParts (part other : Segment × Value) : Prop :=
  other.1 = part.1 ∧ part.2.Resembles other.2

theorem missingKey?_of_resembling {entries others : List (String × Value)}
    (resembling : List.Forall₂ ResemblingParts (Value.map entries).parts (Value.map others).parts)
    (fields : List (String × NodeId)) :
    schema.missingKey? fields others = schema.missingKey? fields entries := by
  have sameField : schema.fieldMissing others = schema.fieldMissing entries := by
    funext key id
    rw [Value.parts, Value.parts, List.forall₂_map_left_iff, List.forall₂_map_right_iff]
      at resembling
    unfold fieldMissing
    dsimp only
    congr 1
    induction resembling with
    | nil => rfl
    | @cons entry other _ _ head _ inductionHypothesis =>
        obtain ⟨entryKey, part⟩ := entry
        obtain ⟨otherKey, other⟩ := other
        obtain ⟨sameKey, resembles⟩ := head
        cases sameKey
        rw [List.lookup_cons, List.lookup_cons]
        cases key == entryKey with
        | true => exact Node.skips_eq_of_resembles resembles
        | false => exact inductionHypothesis
  rw [missingKey?, missingKey?, sameField]

/-- Only the elements at the places of items decide whether an item is missing. -/
theorem itemMissing_of_resembling (items : List NodeId) {elements others : List Value}
    (length : (others.take items.length).length = (elements.take items.length).length)
    (resembling : ∀ (index : Nat) part other, index < items.length →
      elements[index]? = some part → others[index]? = some other → part.Resembles other) :
    schema.itemMissing items others = schema.itemMissing items elements := by
  induction items generalizing elements others with
  | nil => rfl
  | cons id ids inductionHypothesis =>
      match elements, others with
      | [], [] => rfl
      | [], _ :: _ | _ :: _, [] => simp at length
      | part :: parts, other :: others =>
          have first := resembling 0 part other (by simp) rfl rfl
          have rest : schema.itemMissing ids others = schema.itemMissing ids parts := by
            apply inductionHypothesis
            · simpa using length
            · intro index part other inItems held otherHeld
              exact resembling (index + 1) part other (by simpa using inItems) held otherHeld
          rw [itemMissing, itemMissing, Node.skips_eq_of_resembles first, rest]

end Schema

end ParamSchema
