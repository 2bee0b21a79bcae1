import Mathlib.Data.List.Forall2
import ParamSchema.Proofs.Entries
import ParamSchema.Proofs.Outcome
import ParamSchema.Proofs.Value.Nesting
import ParamSchema.Validation.Walk

/-!
Contract: when the walks over the members of a value succeed, and with what.

Owns:
- members without declarations: which are accepted;
- required fields and items: when none is missing;
- the walks over entries, items and elements: what is kept, in which order, and what each becomes.

Does not own: the visit of a node (`Proofs.Validation.Visit`). The visitor is a parameter
throughout.
-/

namespace ParamSchema

/-! ## Lists side by side -/

section SideBySide

variable {α β : Type} {Related : α → β → Prop} {left : List α} {right : List β}

theorem forall₂_iff_getElem? :
    List.Forall₂ Related left right ↔ left.length = right.length ∧
      ∀ (index : Nat) source result, left[index]? = some source → right[index]? = some result →
        Related source result := by
  rw [List.forall₂_iff_get]
  constructor
  · rintro ⟨sameLength, related⟩
    refine ⟨sameLength, fun index source result inLeft inRight => ?_⟩
    obtain ⟨leftBound, rfl⟩ := List.getElem?_eq_some_iff.mp inLeft
    obtain ⟨rightBound, rfl⟩ := List.getElem?_eq_some_iff.mp inRight
    exact related index leftBound rightBound
  · rintro ⟨sameLength, related⟩
    exact ⟨sameLength, fun index leftBound rightBound =>
      related index _ _ (List.getElem?_eq_getElem leftBound) (List.getElem?_eq_getElem rightBound)⟩

theorem exists_left_of_forall₂ (related : List.Forall₂ Related left right) {index : Nat}
    {result : β} (held : right[index]? = some result) :
    ∃ source, left[index]? = some source ∧ Related source result := by
  obtain ⟨sameLength, agree⟩ := forall₂_iff_getElem?.mp related
  obtain ⟨bound, -⟩ := List.getElem?_eq_some_iff.mp held
  have inLeft := List.getElem?_eq_getElem (sameLength ▸ bound : index < left.length)
  exact ⟨_, inLeft, agree index _ _ inLeft held⟩

theorem exists_right_of_forall₂ (related : List.Forall₂ Related left right) {index : Nat}
    {source : α} (held : left[index]? = some source) :
    ∃ result, right[index]? = some result ∧ Related source result :=
  exists_left_of_forall₂ related.flip held

/-- A filtered list that lines up with one as long as the whole has lost nothing. -/
theorem filter_eq_self_of_forall₂ {keep : α → Bool}
    (related : List.Forall₂ Related (left.filter keep) right)
    (sameLength : left.length = right.length) : left.filter keep = left := by
  rw [List.filter_eq_self, ← List.length_filter_eq_length_iff, related.length_eq, sameLength]

end SideBySide

/-! ## Members without declarations -/

namespace Node

/-- What a node without declarations accepts as a member at some depth: a scalar, or where it
allows containers one that fits under the limit with all its levels. -/
def AcceptsMember (node : Node) (limit depth : Nat) (value : Value) : Prop :=
  value.isScalar = true ∨
    (node.options.allowNonScalars = true ∧ depth + value.levels ≤ limit)

variable {node : Node} {limit depth : Nat} {path : Path}

theorem checkMember_eq_ok_iff {container : TypeName} {value : Value} :
    node.checkMember container limit depth value path = .ok () ↔
      node.AcceptsMember limit depth value := by
  unfold checkMember AcceptsMember
  rw [Value.nestingDepth_eq_levels]
  by_cases scalar : value.isScalar
  · simp [scalar]
  · by_cases allowed : node.options.allowNonScalars
    · simp [scalar, allowed]
    · simp [scalar, allowed]

theorem checkEntries_eq_ok_iff {entries : List (String × Value)} :
    node.checkEntries limit depth path entries = .ok () ↔
      ∀ entry ∈ entries, node.AcceptsMember limit depth entry.2 := by
  induction entries with
  | nil => simp [checkEntries]
  | cons entry rest inductionHypothesis =>
      obtain ⟨key, value⟩ := entry
      have accepts : node.checkMember .object limit depth value (path ++ [.field key]) = .ok () ↔
          node.AcceptsMember limit depth value := checkMember_eq_ok_iff
      rw [checkEntries, List.forall_mem_cons, ← inductionHypothesis, ← accepts]
      split
      · next failed => simp [failed]
      · next passed => simp [passed]

theorem checkElements_eq_ok_iff {index : Nat} {elements : List Value} :
    node.checkElements limit depth path index elements = .ok () ↔
      ∀ element ∈ elements, node.AcceptsMember limit depth element := by
  induction elements generalizing index with
  | nil => simp [checkElements]
  | cons value rest inductionHypothesis =>
      have accepts : node.checkMember .array limit depth value (path ++ [.index index]) = .ok () ↔
          node.AcceptsMember limit depth value := checkMember_eq_ok_iff
      have restAccepts := @inductionHypothesis (index + 1)
      rw [checkElements, List.forall_mem_cons, ← restAccepts, ← accepts]
      split
      · next failed => simp [failed]
      · next passed => simp [passed]

end Node

namespace Schema

variable {schema : Schema} {visit : Visitor} {path : Path}

/-! ## Required children -/

/-- No required field is missing exactly when each finds a value that its node does not leave
out. -/
theorem missingKey?_eq_none_iff {fields : List (String × NodeId)}
    {entries : List (String × Value)} :
    schema.missingKey? fields entries = none ↔
      ∀ key id, (key, id) ∈ fields → (schema.node id).isRequired = true →
        ∃ value, entries.lookup key = some value ∧ (schema.node id).skips value = false := by
  unfold missingKey?
  rw [Option.map_eq_none_iff, List.find?_eq_none]
  constructor
  · intro present key id declared required
    have found := present (key, id) declared
    simp only [fieldMissing, required, Bool.true_and] at found
    cases held : entries.lookup key with
    | none => simp [held] at found
    | some value => exact ⟨value, rfl, by simpa [held] using found⟩
  · intro present field declared missing
    obtain ⟨key, id⟩ := field
    simp only [fieldMissing, Bool.and_eq_true] at missing
    obtain ⟨value, held, kept⟩ := present key id declared missing.1
    simp [held, kept] at missing

/-- No required item is missing exactly when each finds a value that its node does not leave
out. -/
theorem itemMissing_eq_false_iff {items : List NodeId} {elements : List Value} :
    schema.itemMissing items elements = false ↔
      ∀ (index : Nat) id, items[index]? = some id → (schema.node id).isRequired = true →
        ∃ value, elements[index]? = some value ∧ (schema.node id).skips value = false := by
  induction items generalizing elements with
  | nil => simp [itemMissing]
  | cons id ids inductionHypothesis =>
      constructor
      · intro present index other declared required
        cases elements with
        | nil =>
            simp only [itemMissing, Bool.or_eq_false_iff] at present
            cases index with
            | zero =>
                cases declared
                rw [required] at present
                cases present.1
            | succ index =>
                exact inductionHypothesis.mp present.2 index other declared required
        | cons value rest =>
            simp only [itemMissing, Bool.or_eq_false_iff] at present
            cases index with
            | zero =>
                cases declared
                exact ⟨value, rfl, by simpa [required] using present.1⟩
            | succ index =>
                exact inductionHypothesis.mp present.2 index other declared required
      · intro present
        have later : ∀ rest : List Value, rest = elements.tail →
            schema.itemMissing ids rest = false := by
          rintro rest rfl
          refine inductionHypothesis.mpr fun index other declared required => ?_
          obtain ⟨value, held, kept⟩ := present (index + 1) other declared required
          exact ⟨value, by rw [List.getElem?_tail]; exact held, kept⟩
        have first := present 0 id rfl
        cases elements with
        | nil =>
            rw [itemMissing, later [] rfl, Bool.or_false]
            by_contra required
            obtain ⟨value, held, -⟩ := first (by simpa using required)
            cases held
        | cons value rest =>
            rw [itemMissing, later rest rfl, Bool.or_false]
            by_contra missing
            simp only [Bool.not_eq_false, Bool.and_eq_true] at missing
            obtain ⟨found, held, kept⟩ := first missing.1
            cases held
            rw [kept] at missing
            cases missing.2

/-- Where no required item is missing, an item that leaves out its element is optional. -/
theorem optional_of_skipped {items : List NodeId} {elements : List Value}
    (present : schema.itemMissing items elements = false) {index : Nat} {id : NodeId}
    {element : Value} (isItem : items[index]? = some id) (held : elements[index]? = some element)
    (skipped : (schema.node id).skips element = true) :
    (schema.node id).options.optional = true := by
  by_contra required
  obtain ⟨found, inElements, kept⟩ := itemMissing_eq_false_iff.mp present index id isItem
    (by simpa [Node.isRequired] using required)
  cases held.symm.trans inElements
  rw [kept] at skipped
  cases skipped

/-! ## The walks -/

/-- Whether an entry is visited: its key is declared and its value is not left out. -/
def keeps (schema : Schema) (fields : List (String × NodeId)) (entry : String × Value) : Bool :=
  match fields.lookup entry.1 with
  | none => false
  | some id => !(schema.node id).skips entry.2

theorem keeps_eq_true_iff {fields : List (String × NodeId)} {entry : String × Value} :
    schema.keeps fields entry = true ↔
      ∃ id, fields.lookup entry.1 = some id ∧ (schema.node id).skips entry.2 = false := by
  unfold keeps
  cases fields.lookup entry.1 with
  | none => simp
  | some id => simp

/-- An entry becomes an entry of the same key when its declared node is visited with success. -/
def VisitsEntry (visit : Visitor) (fields : List (String × NodeId)) (path : Path)
    (entry result : String × Value) : Prop :=
  result.1 = entry.1 ∧ ∃ id, fields.lookup entry.1 = some id ∧
    visit id entry.2 (path ++ [.field entry.1]) = .ok result.2

/-- The walk over entries succeeds exactly when a strict schema declares every key and every entry
that is kept is visited with success; the results stand in the order of those entries. -/
theorem visitEntries_eq_ok_iff {fields : List (String × NodeId)}
    {entries results : List (String × Value)} :
    schema.visitEntries visit fields path entries = .ok results ↔
      (schema.strict = true → ∀ entry ∈ entries, fields.lookup entry.1 ≠ none) ∧
        List.Forall₂ (VisitsEntry visit fields path) (entries.filter (schema.keeps fields))
          results := by
  induction entries generalizing results with
  | nil =>
      rw [visitEntries, List.filter_nil, List.forall₂_nil_left_iff]
      constructor
      · intro same
        cases same
        exact ⟨fun _ => List.forall_mem_nil _, rfl⟩
      · rintro ⟨-, rfl⟩
        rfl
  | cons entry rest inductionHypothesis =>
      obtain ⟨key, value⟩ := entry
      rw [visitEntries, List.forall_mem_cons]
      cases declared : fields.lookup key with
      | none =>
          have left : schema.keeps fields (key, value) = false := by simp [keeps, declared]
          rw [List.filter_cons_of_neg (by simp [left])]
          cases strict : schema.strict with
          | true => simp
          | false => simpa [strict] using inductionHypothesis
      | some id =>
          dsimp only
          by_cases skipped : (schema.node id).skips value
          · have left : schema.keeps fields (key, value) = false := by
              simp [keeps, declared, skipped]
            rw [if_pos skipped, List.filter_cons_of_neg (by simp [left]), inductionHypothesis]
            simp only [ne_eq, reduceCtorEq, not_false_eq_true, true_and]
          · have kept : schema.keeps fields (key, value) = true := by
              simp [keeps, declared, skipped]
            rw [if_neg skipped, List.filter_cons_of_pos kept, List.forall₂_cons_left_iff]
            cases outcome : visit id value (path ++ [.field key]) with
            | error error =>
                constructor
                · intro failed
                  cases failed
                · rintro ⟨-, result, -, ⟨-, found, same, visited⟩, -⟩
                  cases declared.symm.trans same
                  rw [outcome] at visited
                  cases visited
            | ok result =>
                dsimp only
                rw [Except.map_eq_ok_iff]
                constructor
                · rintro ⟨others, walked, rfl⟩
                  obtain ⟨strict, related⟩ := inductionHypothesis.mp walked
                  exact ⟨fun isStrict => ⟨by simp, strict isStrict⟩, (key, result), others,
                    ⟨rfl, id, declared, outcome⟩, related, rfl⟩
                · rintro ⟨strict, ⟨otherKey, other⟩, others, ⟨sameKey, found, same, visited⟩,
                    related, rfl⟩
                  cases sameKey
                  cases declared.symm.trans same
                  rw [outcome] at visited
                  cases visited
                  exact ⟨others,
                    inductionHypothesis.mpr ⟨fun isStrict => (strict isStrict).2, related⟩, rfl⟩

/-- The walk over elements succeeds exactly when every element that is not left out is visited with
success; the results stand in the order of those elements. -/
theorem visitElements_eq_ok_iff {template : NodeId} {index : Nat} {elements results : List Value} :
    schema.visitElements visit template path index elements = .ok results ↔
      List.Forall₂
        (fun element result =>
          visit template element.1 (path ++ [.index element.2]) = .ok result)
        ((elements.zipIdx index).filter fun element =>
          !(schema.node template).skips element.1) results := by
  induction elements generalizing index results with
  | nil =>
      rw [visitElements, List.zipIdx_nil, List.filter_nil, List.forall₂_nil_left_iff, eq_comm]
      simp
  | cons value rest inductionHypothesis =>
      rw [visitElements, List.zipIdx_cons]
      by_cases skipped : (schema.node template).skips value
      · rw [if_pos skipped, List.filter_cons_of_neg (by simp [skipped]), inductionHypothesis]
      · rw [if_neg skipped, List.filter_cons_of_pos (by simp [skipped]),
          List.forall₂_cons_left_iff]
        cases outcome : visit template value (path ++ [.index index]) with
        | error error => simp
        | ok result =>
            dsimp only
            rw [Except.map_eq_ok_iff]
            constructor
            · rintro ⟨others, walked, rfl⟩
              exact ⟨result, others, rfl, inductionHypothesis.mp walked, rfl⟩
            · rintro ⟨other, others, visited, related, rfl⟩
              cases visited
              exact ⟨others, inductionHypothesis.mpr related, rfl⟩

/-- An element at the place of an item becomes nil when the item leaves it out, and else what the
visit gives. -/
def VisitsItem (schema : Schema) (visit : Visitor) (path : Path)
    (slot : (NodeId × Value) × Nat) (result : Value) : Prop :=
  ((schema.node slot.1.1).skips slot.1.2 = true ∧ result = .nil) ∨
    ((schema.node slot.1.1).skips slot.1.2 = false ∧
      visit slot.1.1 slot.1.2 (path ++ [.index slot.2]) = .ok result)

theorem getElem?_slots {items : List NodeId} {elements : List Value} {index : Nat}
    {slot : (NodeId × Value) × Nat} :
    ((items.zip elements).zipIdx)[index]? = some slot ↔
      items[index]? = some slot.1.1 ∧ elements[index]? = some slot.1.2 ∧ slot.2 = index := by
  rw [List.getElem?_zipIdx, Option.map_eq_some_iff]
  constructor
  · rintro ⟨pair, inPairs, rfl⟩
    obtain ⟨isItem, held⟩ := List.getElem?_zip_eq_some.mp inPairs
    exact ⟨isItem, held, Nat.zero_add index⟩
  · rintro ⟨isItem, held, sameIndex⟩
    exact ⟨slot.1, List.getElem?_zip_eq_some.mpr ⟨isItem, held⟩,
      Prod.ext rfl (by rw [sameIndex]; exact Nat.zero_add index)⟩

/-- The walk over items succeeds exactly when a strict schema has an item for every element and
every element at the place of an item becomes a result. -/
theorem visitItems_eq_ok_iff {items : List NodeId} {index : Nat} {elements results : List Value} :
    schema.visitItems visit path index items elements = .ok results ↔
      (schema.strict = true → elements.length ≤ items.length) ∧
        List.Forall₂ (schema.VisitsItem visit path) ((items.zip elements).zipIdx index)
          results := by
  induction elements generalizing index items results with
  | nil =>
      rw [visitItems, List.zip_nil_right, List.zipIdx_nil, List.forall₂_nil_left_iff, eq_comm]
      simp
  | cons value rest inductionHypothesis =>
      cases items with
      | nil =>
          rw [visitItems]
          cases strict : schema.strict with
          | true => simp
          | false => simpa [strict] using @inductionHypothesis [] (index + 1) results
      | cons id ids =>
          rw [visitItems, List.zip_cons_cons, List.zipIdx_cons, List.forall₂_cons_left_iff,
            List.length_cons, List.length_cons, Nat.add_le_add_iff_right]
          by_cases skipped : (schema.node id).skips value
          · rw [if_pos skipped, Except.map_eq_ok_iff]
            constructor
            · rintro ⟨others, walked, rfl⟩
              obtain ⟨strict, related⟩ := inductionHypothesis.mp walked
              exact ⟨strict, .nil, others, .inl ⟨skipped, rfl⟩, related, rfl⟩
            · rintro ⟨strict, result, others, isPlaced, related, rfl⟩
              rcases isPlaced with ⟨-, rfl⟩ | ⟨kept, -⟩
              · exact ⟨others, inductionHypothesis.mpr ⟨strict, related⟩, rfl⟩
              · rw [skipped] at kept
                cases kept
          · rw [if_neg skipped]
            cases outcome : visit id value (path ++ [.index index]) with
            | error error =>
                constructor
                · intro failed
                  cases failed
                · rintro ⟨-, result, -, ⟨left, -⟩ | ⟨-, visited⟩, -⟩
                  · exact absurd left skipped
                  · rw [outcome] at visited
                    cases visited
            | ok result =>
                dsimp only
                rw [Except.map_eq_ok_iff]
                constructor
                · rintro ⟨others, walked, rfl⟩
                  obtain ⟨strict, related⟩ := inductionHypothesis.mp walked
                  exact ⟨strict, result, others, .inr ⟨by simpa using skipped, outcome⟩, related,
                    rfl⟩
                · rintro ⟨strict, other, others, ⟨left, -⟩ | ⟨-, visited⟩, related, rfl⟩
                  · exact absurd left skipped
                  · rw [outcome] at visited
                    cases visited
                    exact ⟨others, inductionHypothesis.mpr ⟨strict, related⟩, rfl⟩

/-! ## From results to sources and back -/

section Sources

variable {fields : List (String × NodeId)} {entries entryResults : List (String × Value)}
  {items : List NodeId} {template id : NodeId} {elements results : List Value} {index : Nat}
  {key : String} {value part : Value}

theorem visitEntries_origin
    (walked : schema.visitEntries visit fields path entries = .ok entryResults)
    (member : (key, part) ∈ entryResults) :
    ∃ id value, fields.lookup key = some id ∧ (key, value) ∈ entries ∧
      (schema.node id).skips value = false ∧ visit id value (path ++ [.field key]) = .ok part := by
  obtain ⟨-, related⟩ := visitEntries_eq_ok_iff.mp walked
  obtain ⟨index, held⟩ := List.getElem?_of_mem member
  obtain ⟨entry, inKept, sameKey, id, found, visited⟩ := exists_left_of_forall₂ related held
  obtain ⟨inAll, isKept⟩ := List.mem_filter.mp (List.mem_of_getElem? inKept)
  obtain ⟨other, lookedUp, kept⟩ := keeps_eq_true_iff.mp isKept
  cases sameKey
  cases found.symm.trans lookedUp
  exact ⟨id, entry.2, found, inAll, kept, visited⟩

theorem visitEntries_image
    (walked : schema.visitEntries visit fields path entries = .ok entryResults)
    (found : fields.lookup key = some id) (member : (key, value) ∈ entries)
    (kept : (schema.node id).skips value = false) :
    ∃ part, (key, part) ∈ entryResults ∧ visit id value (path ++ [.field key]) = .ok part := by
  obtain ⟨-, related⟩ := visitEntries_eq_ok_iff.mp walked
  have isKept : schema.keeps fields (key, value) = true := keeps_eq_true_iff.mpr ⟨id, found, kept⟩
  obtain ⟨index, held⟩ := List.getElem?_of_mem (List.mem_filter.mpr ⟨member, isKept⟩)
  obtain ⟨⟨resultKey, part⟩, inResults, sameKey, other, lookedUp, visited⟩ :=
    exists_right_of_forall₂ related held
  cases sameKey
  cases found.symm.trans lookedUp
  exact ⟨part, List.mem_of_getElem? inResults, visited⟩

theorem visitItems_origin (walked : schema.visitItems visit path 0 items elements = .ok results)
    (held : results[index]? = some part) :
    ∃ id value, items[index]? = some id ∧ elements[index]? = some value ∧
      schema.VisitsItem visit path ((id, value), index) part := by
  obtain ⟨-, related⟩ := visitItems_eq_ok_iff.mp walked
  obtain ⟨⟨⟨id, value⟩, place⟩, inSlots, becomes⟩ := exists_left_of_forall₂ related held
  obtain ⟨isItem, isElement, rfl⟩ := getElem?_slots.mp inSlots
  exact ⟨id, value, isItem, isElement, becomes⟩

theorem visitItems_image (walked : schema.visitItems visit path 0 items elements = .ok results)
    (isItem : items[index]? = some id) (held : elements[index]? = some value) :
    ∃ part, results[index]? = some part ∧
      schema.VisitsItem visit path ((id, value), index) part := by
  obtain ⟨-, related⟩ := visitItems_eq_ok_iff.mp walked
  exact exists_right_of_forall₂ related (getElem?_slots.mpr ⟨isItem, held, rfl⟩)

theorem length_visitItems (walked : schema.visitItems visit path 0 items elements = .ok results) :
    results.length = min items.length elements.length := by
  obtain ⟨-, related⟩ := visitItems_eq_ok_iff.mp walked
  rw [← related.length_eq, List.length_zipIdx, List.length_zip]

theorem visitElements_origin
    (walked : schema.visitElements visit template path 0 elements = .ok results)
    (held : results[index]? = some part) :
    ∃ (place : Nat) (value : Value), elements[place]? = some value ∧
      (schema.node template).skips value = false ∧
        visit template value (path ++ [.index place]) = .ok part := by
  have related := visitElements_eq_ok_iff.mp walked
  obtain ⟨⟨value, place⟩, inKept, visited⟩ := exists_left_of_forall₂ related held
  obtain ⟨inAll, kept⟩ := List.mem_filter.mp (List.mem_of_getElem? inKept)
  exact ⟨place, value, List.mem_zipIdx_iff_getElem?.mp inAll, by simpa using kept, visited⟩

theorem visitElements_image
    (walked : schema.visitElements visit template path 0 elements = .ok results)
    (held : elements[index]? = some value) (kept : (schema.node template).skips value = false) :
    ∃ (place : Nat) (part : Value), results[place]? = some part ∧
      visit template value (path ++ [.index index]) = .ok part := by
  have related := visitElements_eq_ok_iff.mp walked
  have inKept : (value, index) ∈ elements.zipIdx.filter fun element =>
      !(schema.node template).skips element.1 :=
    List.mem_filter.mpr ⟨List.mem_zipIdx_iff_getElem?.mpr held, by simp [kept]⟩
  obtain ⟨place, inSlots⟩ := List.getElem?_of_mem inKept
  obtain ⟨part, inResults, visited⟩ := exists_right_of_forall₂ related inSlots
  exact ⟨place, part, inResults, visited⟩

end Sources

end Schema

end ParamSchema
