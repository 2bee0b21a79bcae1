import ParamSchema.Proofs.Validation.Conformance
import ParamSchema.Proofs.Validation.Walks

/-!
Contract: what a node with declarations hands to its hooks.

Owns:
- the map that is rebuilt from a map: which keys it has, and what is bound to them;
- the list that is rebuilt from a list, against items by position and against one node for all;
- that these are what the visit of a node goes on with.

Does not own: members without declarations, which are kept as they are.
-/

namespace ParamSchema

namespace Schema

/-! ## Rebuilt containers -/

/-- A map that is rebuilt against declared fields: it binds the keys of the entries that are
declared and not left out, each to the result of its visit. -/
structure FieldsRebuilt (schema : Schema) (visit : Visitor) (fields : List (String × NodeId))
    (path : Path) (entries results : List (String × Value)) : Prop where
  ascending : Entries.Ascending results
  keys : ∀ key, key ∈ results.map Prod.fst ↔
    ∃ child value, (key, child) ∈ fields ∧ entries.lookup key = some value ∧
      (schema.node child).skips value = false
  bound : ∀ key result, results.lookup key = some result ↔
    ∃ child value, (key, child) ∈ fields ∧ entries.lookup key = some value ∧
      (schema.node child).skips value = false ∧
        visit child value (path ++ [.field key]) = .ok result
  required : ∀ key child, (key, child) ∈ fields → (schema.node child).isRequired = true →
    key ∈ results.map Prod.fst
  /-- A strict schema has let no undeclared key pass. -/
  declared : schema.strict = true → ∀ key ∈ entries.map Prod.fst, key ∈ fields.map Prod.fst

/-- A list that is rebuilt against declared items: each item takes the element at its place, and
holds the place with nil where it leaves the element out. -/
structure ItemsRebuilt (schema : Schema) (visit : Visitor) (items : List NodeId) (path : Path)
    (elements results : List Value) : Prop where
  length : results.length = min elements.length items.length
  strictLength : schema.strict = true → results.length = elements.length
  skipped : ∀ (index : Nat) child value, items[index]? = some child →
    elements[index]? = some value → (schema.node child).skips value = true →
      results[index]? = some .nil
  visited : ∀ (index : Nat) child value, items[index]? = some child →
    elements[index]? = some value → (schema.node child).skips value = false →
      ∃ result, results[index]? = some result ∧
        visit child value (path ++ [.index index]) = .ok result

/-- A list that is rebuilt against one node for all: the results of the elements that the node does
not leave out, in their order. -/
def ElementsRebuilt (schema : Schema) (visit : Visitor) (template : NodeId) (path : Path)
    (elements results : List Value) : Prop :=
  List.Forall₂
    (fun element result => visit template element.1 (path ++ [.index element.2]) = .ok result)
    (elements.zipIdx.filter fun element => !(schema.node template).skips element.1) results

/-- What a node with declarations makes of a container, and hands to its hooks. -/
structure ContainersRebuilt (schema : Schema) (limit depth : Nat) (id : NodeId) (value : Value)
    (path : Path) (handed : Value) : Prop where
  /-- Maps hold their entries in ascending order of key. -/
  fields : ∀ fields, (schema.node id).children = .keyed fields → fields ≠ [] →
    ∃ entries results, value = .map entries ∧ handed = .map results ∧
      (Entries.Ascending entries →
        schema.FieldsRebuilt (schema.visit limit (depth + 1)) fields path entries results)
  items : ∀ items, (schema.node id).children = .positional items → items ≠ [] →
    ∃ elements results, value = .seq elements ∧ handed = .seq results ∧
      schema.ItemsRebuilt (schema.visit limit (depth + 1)) items path elements results
  elements : ∀ template, (schema.node id).children = .homogeneous template →
    ∃ elements results, value = .seq elements ∧ handed = .seq results ∧
      schema.ElementsRebuilt (schema.visit limit (depth + 1)) template path elements results
  /-- The visit of a container is what the hooks make of it. -/
  hooks : depth ≤ limit → value.isScalar = false →
    schema.visit limit depth id value path = (schema.node id).applyHooks path handed

/-! ## Walks over members -/

section Members

variable {schema : Schema} {visit : Visitor} {path : Path}

theorem keys_visitEntries {fields : List (String × NodeId)}
    {entries results : List (String × Value)}
    (walked : schema.visitEntries visit fields path entries = .ok results) :
    results.map Prod.fst = (entries.filter (schema.keeps fields)).map Prod.fst := by
  obtain ⟨-, related⟩ := visitEntries_eq_ok_iff.mp walked
  clear walked
  generalize entries.filter (schema.keeps fields) = kept at related ⊢
  induction related with
  | nil => rfl
  | cons becomes _ inductionHypothesis =>
      rw [List.map_cons, List.map_cons, inductionHypothesis, becomes.1]

theorem ascending_visitEntries {fields : List (String × NodeId)}
    {entries results : List (String × Value)} (ascending : Entries.Ascending entries)
    (walked : schema.visitEntries visit fields path entries = .ok results) :
    Entries.Ascending results := by
  have inOrder : ((entries.filter (schema.keeps fields)).map Prod.fst).Pairwise (· < ·) :=
    List.pairwise_map.mpr (ascending.filter (schema.keeps fields))
  rw [← keys_visitEntries walked] at inOrder
  exact List.pairwise_map.mp inOrder

theorem fieldsRebuilt_of_walked {fields : List (String × NodeId)}
    {entries results : List (String × Value)} (distinct : (fields.map Prod.fst).Nodup)
    (ascending : Entries.Ascending entries) (present : schema.missingKey? fields entries = none)
    (walked : schema.visitEntries visit fields path entries = .ok results) :
    schema.FieldsRebuilt visit fields path entries results := by
  have resultsAscending := ascending_visitEntries ascending walked
  -- Under distinct keys, to be held and to be found are the same.
  have isField : ∀ {key child}, fields.lookup key = some child ↔ (key, child) ∈ fields :=
    lookup_eq_some_iff_mem distinct
  have isEntry : ∀ {key value}, entries.lookup key = some value ↔ (key, value) ∈ entries :=
    lookup_eq_some_iff_mem ascending.nodup
  have isResult : ∀ {key value}, results.lookup key = some value ↔ (key, value) ∈ results :=
    lookup_eq_some_iff_mem resultsAscending.nodup
  have keys : ∀ key, key ∈ results.map Prod.fst ↔
      ∃ child value, (key, child) ∈ fields ∧ entries.lookup key = some value ∧
        (schema.node child).skips value = false := by
    intro key
    constructor
    · intro isKey
      obtain ⟨⟨sameKey, part⟩, member, rfl⟩ := List.mem_map.mp isKey
      obtain ⟨child, value, found, inEntries, kept, -⟩ := visitEntries_origin walked member
      exact ⟨child, value, isField.mp found, isEntry.mpr inEntries, kept⟩
    · rintro ⟨child, value, declared, held, kept⟩
      obtain ⟨part, member, -⟩ :=
        visitEntries_image walked (isField.mpr declared) (isEntry.mp held) kept
      exact List.mem_map_of_mem member
  refine ⟨resultsAscending, keys, ?bound, ?required, ?declared⟩
  case bound =>
    intro key result
    constructor
    · intro found
      obtain ⟨child, value, lookedUp, inEntries, kept, visited⟩ :=
        visitEntries_origin walked (isResult.mp found)
      exact ⟨child, value, isField.mp lookedUp, isEntry.mpr inEntries, kept, visited⟩
    · rintro ⟨child, value, declared, held, kept, visited⟩
      obtain ⟨part, member, sameVisit⟩ :=
        visitEntries_image walked (isField.mpr declared) (isEntry.mp held) kept
      cases visited.symm.trans sameVisit
      exact isResult.mpr member
  case required =>
    intro key child declared required
    obtain ⟨value, held, kept⟩ := missingKey?_eq_none_iff.mp present key child declared required
    exact (keys key).mpr ⟨child, value, declared, held, kept⟩
  case declared =>
    intro strict key isKey
    obtain ⟨entry, inEntries, rfl⟩ := List.mem_map.mp isKey
    obtain ⟨allDeclared, -⟩ := visitEntries_eq_ok_iff.mp walked
    obtain ⟨child, found⟩ := Option.ne_none_iff_exists'.mp (allDeclared strict entry inEntries)
    exact List.mem_map_of_mem (isField.mp found)

theorem itemsRebuilt_of_walked {items : List NodeId} {elements results : List Value}
    (walked : schema.visitItems visit path 0 items elements = .ok results) :
    schema.ItemsRebuilt visit items path elements results := by
  have length : results.length = min elements.length items.length := by
    rw [length_visitItems walked, Nat.min_comm]
  refine ⟨length, ?strictLength, ?skipped, ?visited⟩
  case strictLength =>
    intro strict
    obtain ⟨noMore, -⟩ := visitItems_eq_ok_iff.mp walked
    rw [length, Nat.min_eq_left (noMore strict)]
  case skipped =>
    intro index child value isItem held skips
    obtain ⟨part, inResults, ⟨-, rfl⟩ | ⟨kept, -⟩⟩ := visitItems_image walked isItem held
    · exact inResults
    · rw [skips] at kept
      cases kept
  case visited =>
    intro index child value isItem held kept
    obtain ⟨part, inResults, ⟨skips, -⟩ | ⟨-, visited⟩⟩ := visitItems_image walked isItem held
    · rw [kept] at skips
      cases skips
    · exact ⟨part, inResults, visited⟩

end Members

/-! ## Nodes -/

section Nodes

variable {schema : Schema} {limit depth : Nat} {visit : Visitor} {id : NodeId} {path : Path}
  {value output : Value}

/-- A container that is rebuilt is of the type of its node. -/
theorem Rebuilds.classify_of_container (coherent : schema.Coherent)
    (rebuilds : schema.Rebuilds limit depth visit id path value output)
    (container : value.isScalar = false) :
    TypeName.classify value = some (schema.node id).type := by
  have children := coherent.ofType id
  cases rebuilds with
  | leaf declared isScalar =>
      rw [container] at isScalar
      cases isScalar
  | openMap declared | fields declared =>
      rw [declared] at children
      rw [children.of_keyed]
      rfl
  | openSeq declared | items declared =>
      rw [declared] at children
      rw [children.of_positional]
      rfl
  | elements declared =>
      rw [declared] at children
      rw [children.of_homogeneous]
      rfl

/-- A container that has been taken apart and rebuilt goes to the hooks. -/
theorem visit_eq_applyHooks (coherent : schema.Coherent) (inLimit : depth ≤ limit)
    (container : value.isScalar = false)
    (rebuilt : schema.visitParts limit depth (schema.visit limit (depth + 1)) (schema.node id) value
      path = .ok output) :
    schema.visit limit depth id value path = (schema.node id).applyHooks path output := by
  have ofType : TypeName.classify value = some (schema.node id).type :=
    (visitParts_eq_ok_iff.mp rebuilt).classify_of_container coherent container
  have composite : (schema.node id).type.isScalar = false := by
    rw [← TypeName.isScalar_of_classify ofType, container]
  rw [visit_own_container inLimit ofType composite, rebuilt]
  rfl

/-- Containers are rebuilt without loss, duplication or displacement. -/
theorem containersRebuilt_of_built (built : schema.Built)
    (rebuilt : schema.visitParts limit depth (schema.visit limit (depth + 1)) (schema.node id) value
      path = .ok output) :
    schema.ContainersRebuilt limit depth id value path output := by
  have rebuilds := visitParts_eq_ok_iff.mp rebuilt
  refine ⟨?fields, ?items, ?elements, ?hooks⟩
  case fields =>
    intro fields declared nonempty
    obtain ⟨entries, results, rfl, rfl, present, walked⟩ := rebuilds.of_keyed declared nonempty
    have distinct := (built.coherent id).distinct fields declared
    exact ⟨entries, results, rfl, rfl, fun ascending =>
      fieldsRebuilt_of_walked distinct ascending present walked⟩
  case items =>
    intro items declared nonempty
    obtain ⟨elements, results, rfl, rfl, -, walked⟩ := rebuilds.of_positional declared nonempty
    exact ⟨elements, results, rfl, rfl, itemsRebuilt_of_walked walked⟩
  case elements =>
    intro template declared
    obtain ⟨elements, results, rfl, rfl, walked⟩ := rebuilds.of_homogeneous declared
    exact ⟨elements, results, rfl, rfl, visitElements_eq_ok_iff.mp walked⟩
  case hooks =>
    intro inLimit container
    exact visit_eq_applyHooks built.coherent inLimit container rebuilt

end Nodes

theorem rebuilt_annotated_unset :
    annotated.visitParts 64 0 (annotated.visit 64 1) (annotated.node 0)
      (.map [("meta", .map [("x", .nil)])]) [] = .ok (.map [("meta", .map [])]) := by
  cbv

theorem annotated_containersRebuilt :
    annotated.Built ∧
      annotated.visitParts 64 0 (annotated.visit 64 1) (annotated.node 0)
        (.map [("meta", .map [("x", .nil)])]) [] = .ok (.map [("meta", .map [])]) ∧
      annotated.ContainersRebuilt 64 0 0 (.map [("meta", .map [("x", .nil)])]) []
        (.map [("meta", .map [])]) :=
  ⟨annotated_built, rebuilt_annotated_unset,
    containersRebuilt_of_built annotated_built rebuilt_annotated_unset⟩

end Schema

end ParamSchema
