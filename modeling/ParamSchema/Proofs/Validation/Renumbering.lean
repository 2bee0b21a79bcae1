import ParamSchema.Proofs.Schema.Addresses
import ParamSchema.Proofs.Validation.Blame
import ParamSchema.Proofs.Validation.Comparison

/-!
Contract: schemas that are the same tree under other numbers.

Owns:
- verdicts that match up to errors that are alike;
- renumbered nodes and schemas, whose fields may be declared in another order;
- that a renumbered schema gives the same verdict, up to which of several missing keys is named.

Does not own: schemas whose rules differ (`Proofs.Validation.Comparison`).

A renumbering maps the numbers of one schema to those of the other. It need not be injective: only
the tree that is seen from the root matters to the walk.
-/

namespace ParamSchema

/-! ## Verdicts -/

/-- Two verdicts match when both give the same, or both are errors that are alike. -/
inductive Verdict.Matches {α : Type} (Alike : ValidationError → ValidationError → Prop) :
    Verdict α → Verdict α → Prop where
  | ok (value : α) : Matches Alike (.ok value) (.ok value)
  | error {first second : ValidationError} (alike : Alike first second) :
      Matches Alike (.error first) (.error second)

namespace Verdict.Matches

variable {α β : Type} {Alike : ValidationError → ValidationError → Prop}
  {first second : Verdict α}

theorem refl (same : ∀ error, Alike error error) (verdict : Verdict α) :
    Verdict.Matches Alike verdict verdict := by
  cases verdict with
  | error error => exact .error (same error)
  | ok value => exact .ok value

/-- Matching verdicts go on alike where what follows the same value matches. -/
theorem bind {next later : α → Verdict β} (agree : Verdict.Matches Alike first second)
    (rest : ∀ value, Verdict.Matches Alike (next value) (later value)) :
    Verdict.Matches Alike (first.bind next) (second.bind later) := by
  cases agree with
  | ok value => exact rest value
  | error alike => exact .error alike

theorem map (agree : Verdict.Matches Alike first second) (function : α → β) :
    Verdict.Matches Alike (first.map function) (second.map function) := by
  cases agree with
  | ok value => exact .ok (function value)
  | error alike => exact .error alike

end Verdict.Matches

/-! ## Renumbered schemas -/

/-- The same children under other numbers. Fields may be declared in another order; the order of
items is that of their positions, and stays. -/
inductive Children.Renumbered (rename : NodeId → NodeId) : Children → Children → Prop where
  | scalar : Renumbered rename .scalar .scalar
  | keyed {fields others : List (String × NodeId)}
      (reordered : others.Perm (fields.map fun field => (field.1, rename field.2))) :
      Renumbered rename (.keyed fields) (.keyed others)
  | positional (items : List NodeId) :
      Renumbered rename (.positional items) (.positional (items.map rename))
  | homogeneous (template : NodeId) :
      Renumbered rename (.homogeneous template) (.homogeneous (rename template))

/-- The same type, options and hooks, and the same children under other numbers. -/
structure Node.Renumbered (rename : NodeId → NodeId) (node other : Node) : Prop where
  type : other.type = node.type
  options : other.options = node.options
  children : node.children.Renumbered rename other.children

/-- Two schemas of the same tree, with the numbers of one mapped to those of the other. -/
structure Schema.Renumbering (schema other : Schema) where
  rename : NodeId → NodeId
  root : rename Schema.root = Schema.root
  strict : other.strict = schema.strict
  nodes : ∀ id, id < schema.nodes.size →
    (schema.node id).Renumbered rename (other.node (rename id))

namespace Node.Renumbered

variable {rename : NodeId → NodeId} {node other : Node} (renumbered : node.Renumbered rename other)

include renumbered

theorem sameRules : node.SameRules other := by
  constructor
  case type => exact renumbered.type
  all_goals rw [renumbered.options]

theorem applyHooks_eq (path : Path) (value : Value) :
    other.applyHooks path value = node.applyHooks path value := by
  apply applyHooks_congr
  case included => exact renumbered.sameRules.includes_eq value
  case checked => simp only [verdict, renumbered.options, implies_true]
  case transformed => simp only [transformed, renumbered.options, implies_true]

theorem checkEntries_eq (limit depth : Nat) (path : Path) (entries : List (String × Value)) :
    other.checkEntries limit depth path entries = node.checkEntries limit depth path entries := by
  have sameMembers := renumbered.sameRules.checkMember_eq .object limit depth
  exact (Schema.checkEntries_agrees (fun part place => .inl (sameMembers part place)) entries).eq

theorem checkElements_eq (limit depth : Nat) (path : Path) (index : Nat) (elements : List Value) :
    other.checkElements limit depth path index elements =
      node.checkElements limit depth path index elements := by
  have sameMembers := renumbered.sameRules.checkMember_eq .array limit depth
  exact (Schema.checkElements_agrees (fun part place => .inl (sameMembers part place)) index
    elements).eq

end Node.Renumbered

namespace Schema

variable {schema other : Schema}

/-! ## Missing fields -/

/-- A map misses a key beneath a node when a required field is declared under the key, and the map
has no value there or one that is left out. -/
inductive MissesKey (schema : Schema) (id : NodeId) (entries : List (String × Value))
    (key : String) : Prop where
  | field {child : NodeId} (declared : schema.step? id (.field key) = some child)
      (required : (schema.node child).isRequired = true)
      (absent : ∀ part, entries.lookup key = some part → (schema.node child).skips part = true)

/-- A map passes the check for required fields exactly when it misses no key. -/
theorem missingKey?_eq_none_iff_missesKey (coherent : schema.Coherent) {id : NodeId}
    {fields : List (String × NodeId)} (declared : (schema.node id).children = .keyed fields)
    (entries : List (String × Value)) :
    schema.missingKey? fields entries = none ↔ ∀ key, ¬schema.MissesKey id entries key := by
  rw [missingKey?_eq_none_iff]
  constructor
  · rintro present key ⟨isChild, required, absent⟩
    rw [step?_of_keyed declared] at isChild
    obtain ⟨part, held, kept⟩ := present key _ (mem_of_lookup_eq_some isChild) required
    rw [absent part held] at kept
    cases kept
  · intro missesNone key child isField required
    have isChild : schema.step? id (.field key) = some child := by
      rw [step?_of_keyed declared]
      exact coherent.lookup_eq_some declared isField
    by_contra absent
    refine missesNone key (.field isChild required fun part held => ?_)
    by_contra kept
    exact absent ⟨part, held, by simpa using kept⟩

theorem missesKey_of_missingKey? (coherent : schema.Coherent) {id : NodeId}
    {fields : List (String × NodeId)} {entries : List (String × Value)} {key : String}
    (declared : (schema.node id).children = .keyed fields)
    (missing : schema.missingKey? fields entries = some key) : schema.MissesKey id entries key := by
  obtain ⟨child, isField, required, absent⟩ := missingKey?_eq_some missing
  refine .field ?_ required absent
  rw [step?_of_keyed declared]
  exact coherent.lookup_eq_some declared isField

/-- Errors are alike when they are the same, or name two keys that the same map misses beneath the
same node. -/
inductive SameButKey (schema : Schema) (input : Value) :
    ValidationError → ValidationError → Prop where
  | same (error : ValidationError) : SameButKey schema input error error
  | keys {path : Path} {id : NodeId} {entries : List (String × Value)} {key otherKey : String}
      (reaches : input.Reaches path (.map entries))
      (declared : schema.resolve? root path = some id) (misses : schema.MissesKey id entries key)
      (missesOther : schema.MissesKey id entries otherKey) :
      SameButKey schema input ⟨path, .requiredKeysMissing key⟩
        ⟨path, .requiredKeysMissing otherKey⟩

/-! ## Children by number -/

namespace Renumbering

variable (renumbering : schema.Renumbering other)

theorem child_renumbered (linked : schema.nodes.Linked) {id child : NodeId} {segment : Segment}
    (declared : schema.step? id segment = some child) :
    (schema.node child).Renumbered renumbering.rename (other.node (renumbering.rename child)) :=
  renumbering.nodes child (lt_size_of_step? linked declared)

/-- Reordered fields are found under the same keys. -/
theorem lookup_eq (coherent : schema.Coherent) (otherCoherent : other.Coherent) {id : NodeId}
    {fields others : List (String × NodeId)} (declared : (schema.node id).children = .keyed fields)
    (otherDeclared : (other.node (renumbering.rename id)).children = .keyed others)
    (reordered : others.Perm (fields.map fun field => (field.1, renumbering.rename field.2)))
    (key : String) : others.lookup key = (fields.lookup key).map renumbering.rename := by
  cases found : fields.lookup key with
  | some child =>
      have isField : (key, renumbering.rename child) ∈ others :=
        reordered.mem_iff.mpr (List.mem_map.mpr ⟨_, mem_of_lookup_eq_some found, rfl⟩)
      exact otherCoherent.lookup_eq_some otherDeclared isField
  | none =>
      cases otherFound : others.lookup key with
      | none => rfl
      | some renamed =>
          have isField := reordered.mem_iff.mp (mem_of_lookup_eq_some otherFound)
          obtain ⟨⟨otherKey, child⟩, member, same⟩ := List.mem_map.mp isField
          cases same
          rw [coherent.lookup_eq_some declared member] at found
          cases found

/-- Renumbered nodes declare renumbered children under the same steps. -/
theorem step?_eq (coherent : schema.Coherent) (otherCoherent : other.Coherent) {id : NodeId}
    (inRange : id < schema.nodes.size) (segment : Segment) :
    other.step? (renumbering.rename id) segment =
      (schema.step? id segment).map renumbering.rename := by
  have children := (renumbering.nodes id inRange).children
  generalize otherDeclared : (other.node (renumbering.rename id)).children = others at children
  cases segment with
  | field key =>
      cases declared : (schema.node id).children with
      | keyed fields =>
          rw [declared] at children
          cases children with
          | keyed reordered =>
              rw [step?_of_keyed declared, step?_of_keyed otherDeclared]
              exact renumbering.lookup_eq coherent otherCoherent declared otherDeclared reordered
                key
      | scalar | positional | homogeneous =>
          rw [declared] at children
          cases children
          rw [step?, step?, child?, child?, declared, otherDeclared]
          rfl
  | index index =>
      cases declared : (schema.node id).children with
      | positional items =>
          rw [declared] at children
          cases children
          rw [step?_of_positional declared, step?_of_positional otherDeclared]
          exact List.getElem?_map
      | homogeneous template =>
          rw [declared] at children
          cases children
          rw [step?_of_homogeneous declared, step?_of_homogeneous otherDeclared]
          rfl
      | scalar | keyed =>
          rw [declared] at children
          cases children
          rw [step?, step?, item?, item?, declared, otherDeclared]
          rfl

/-- Renumbered nodes miss the same keys of a map. -/
theorem missesKey_iff (linked : schema.nodes.Linked) (otherCoherent : other.Coherent) {id : NodeId}
    (inRange : id < schema.nodes.size) {entries : List (String × Value)} {key : String} :
    other.MissesKey (renumbering.rename id) entries key ↔ schema.MissesKey id entries key := by
  have sameChild := renumbering.step?_eq linked.coherent otherCoherent inRange (.field key)
  constructor
  · rintro ⟨declared, required, absent⟩
    rw [sameChild] at declared
    obtain ⟨child, isChild, rfl⟩ := Option.map_eq_some_iff.mp declared
    have renumbered := renumbering.child_renumbered linked isChild
    rw [renumbered.sameRules.isRequired_eq] at required
    refine .field isChild required fun part held => ?_
    rw [← renumbered.sameRules.skips_eq]
    exact absent part held
  · rintro ⟨isChild, required, absent⟩
    have renumbered := renumbering.child_renumbered linked isChild
    have declared := sameChild
    rw [isChild] at declared
    refine .field declared ?_ fun part held => ?_
    · rw [renumbered.sameRules.isRequired_eq]
      exact required
    · rw [renumbered.sameRules.skips_eq]
      exact absent part held

/-! ## Members -/

section Members

variable {Alike : ValidationError → ValidationError → Prop} {visit later : Visitor} {path : Path}

section Walks

/-- Renumbered items miss their elements alike. -/
theorem itemMissing_eq {items : List NodeId}
    (nodes : ∀ child ∈ items,
      (schema.node child).Renumbered renumbering.rename (other.node (renumbering.rename child)))
    (elements : List Value) :
    other.itemMissing (items.map renumbering.rename) elements =
      schema.itemMissing items elements := by
  induction items generalizing elements with
  | nil => rfl
  | cons child children inductionHypothesis =>
      have first := (nodes child List.mem_cons_self).sameRules
      have rest := inductionHypothesis fun child isItem =>
        nodes child (List.mem_cons_of_mem _ isItem)
      cases elements with
      | nil => simp only [List.map_cons, itemMissing, first.isRequired_eq, rest]
      | cons part parts =>
          simp only [List.map_cons, itemMissing, first.isRequired_eq, first.skips_eq, rest]

theorem visitElements_matches {template : NodeId} (index : Nat) {elements : List Value}
    (skips : ∀ part,
      (other.node (renumbering.rename template)).skips part = (schema.node template).skips part)
    (visits : ∀ (offset : Nat) part, elements[offset]? = some part →
      Verdict.Matches Alike (visit template part (path ++ [.index (index + offset)]))
        (later (renumbering.rename template) part (path ++ [.index (index + offset)]))) :
    Verdict.Matches Alike (schema.visitElements visit template path index elements)
      (other.visitElements later (renumbering.rename template) path index elements) := by
  induction elements generalizing index with
  | nil => exact .ok []
  | cons part rest inductionHypothesis =>
      have restMatches := inductionHypothesis (index + 1) fun offset part held => by
        rw [Nat.add_assoc, Nat.add_comm 1]
        exact visits (offset + 1) part held
      rw [visitElements_cons, visitElements_cons, skips]
      split
      · exact restMatches
      · exact (visits 0 part rfl).bind fun _ => restMatches.map _

variable (same : ∀ error, Alike error error)

include same

/-- Fields that are found under the same keys are walked alike, in whatever order they are
declared. -/
theorem visitEntries_matches {fields others : List (String × NodeId)}
    {entries : List (String × Value)}
    (found : ∀ key, others.lookup key = (fields.lookup key).map renumbering.rename)
    (skips : ∀ key child, fields.lookup key = some child → ∀ part,
      (other.node (renumbering.rename child)).skips part = (schema.node child).skips part)
    (visits : ∀ key child part, fields.lookup key = some child → (key, part) ∈ entries →
      Verdict.Matches Alike (visit child part (path ++ [.field key]))
        (later (renumbering.rename child) part (path ++ [.field key]))) :
    Verdict.Matches Alike (schema.visitEntries visit fields path entries)
      (other.visitEntries later others path entries) := by
  induction entries with
  | nil => exact .ok []
  | cons entry rest inductionHypothesis =>
      obtain ⟨key, part⟩ := entry
      have restMatches := inductionHypothesis fun otherKey child otherPart declared member =>
        visits otherKey child otherPart declared (List.mem_cons_of_mem _ member)
      have otherFound := found key
      cases declared : fields.lookup key with
      | none =>
          rw [declared] at otherFound
          rw [visitEntries_undeclared declared, visitEntries_undeclared otherFound,
            renumbering.strict]
          split
          · exact .refl same _
          · exact restMatches
      | some child =>
          rw [declared] at otherFound
          rw [visitEntries_declared declared, visitEntries_declared otherFound,
            skips key child declared]
          split
          · exact restMatches
          · exact (visits key child part declared List.mem_cons_self).bind fun _ =>
              restMatches.map _

theorem visitItems_matches (index : Nat) (items : List NodeId) {elements : List Value}
    (skips : ∀ child ∈ items, ∀ part,
      (other.node (renumbering.rename child)).skips part = (schema.node child).skips part)
    (visits : ∀ (offset : Nat) child part, items[offset]? = some child →
      elements[offset]? = some part →
        Verdict.Matches Alike (visit child part (path ++ [.index (index + offset)]))
          (later (renumbering.rename child) part (path ++ [.index (index + offset)]))) :
    Verdict.Matches Alike (schema.visitItems visit path index items elements)
      (other.visitItems later path index (items.map renumbering.rename) elements) := by
  induction elements generalizing index items with
  | nil =>
      rw [visitItems, visitItems]
      exact .ok []
  | cons part rest inductionHypothesis =>
      cases items with
      | nil =>
          rw [List.map_nil, visitItems_undeclared, visitItems_undeclared, renumbering.strict]
          split
          · exact .refl same _
          · refine inductionHypothesis (index + 1) [] ?_ ?_
            · intro child isItem
              cases isItem
            · intro offset child part isItem
              cases isItem
      | cons child children =>
          have restMatches := inductionHypothesis (index + 1) children
            (fun child isItem => skips child (List.mem_cons_of_mem _ isItem))
            (fun offset child part isItem held => by
              rw [Nat.add_assoc, Nat.add_comm 1]
              exact visits (offset + 1) child part isItem held)
          rw [List.map_cons, visitItems_declared, visitItems_declared,
            skips child List.mem_cons_self]
          split
          · exact restMatches.map _
          · exact (visits 0 child part rfl rfl).bind fun _ => restMatches.map _

end Walks

section Parts

variable (linked : schema.nodes.Linked) {id : NodeId}

include linked

/-- A list matches beneath renumbered items: both runs miss an item, or both walk the elements. -/
theorem visitSeq_matches {items : List NodeId} {input : Value} {elements : List Value}
    (declared : (schema.node id).children = .positional items)
    (visits : ∀ segment child part, schema.DeclaredPart id (.seq elements) segment child part →
      Verdict.Matches (SameButKey schema input) (visit child part (path ++ [segment]))
        (later (renumbering.rename child) part (path ++ [segment]))) :
    Verdict.Matches (SameButKey schema input) (schema.visitSeq visit items elements path)
      (other.visitSeq later (items.map renumbering.rename) elements path) := by
  have nodes : ∀ child ∈ items, (schema.node child).Renumbered renumbering.rename
      (other.node (renumbering.rename child)) := by
    intro child isItem
    obtain ⟨index, held⟩ := List.mem_iff_getElem?.mp isItem
    have isChild : schema.step? id (.index index) = some child := by
      rw [step?_of_positional declared, held]
    exact renumbering.child_renumbered linked isChild
  unfold visitSeq
  rw [renumbering.itemMissing_eq nodes]
  split
  · exact .refl .same _
  · refine (visitItems_matches renumbering .same 0 items
      (fun child isItem => (nodes child isItem).sameRules.skips_eq) ?_).map _
    intro offset child part isItem held
    rw [Nat.zero_add]
    exact visits _ child part (declaredPart_item declared isItem held)

variable (otherCoherent : other.Coherent) (inRange : id < schema.nodes.size) {limit depth : Nat}

include otherCoherent inRange

/-- A map matches beneath renumbered fields: both runs name a key that it misses, or both walk its
entries. -/
theorem visitMap_matches {fields others : List (String × NodeId)} {input : Value}
    {entries : List (String × Value)} (declared : (schema.node id).children = .keyed fields)
    (otherDeclared : (other.node (renumbering.rename id)).children = .keyed others)
    (position : schema.Position Schema.root input path id (.map entries))
    (visits : ∀ segment child part, schema.DeclaredPart id (.map entries) segment child part →
      Verdict.Matches (SameButKey schema input) (visit child part (path ++ [segment]))
        (later (renumbering.rename child) part (path ++ [segment]))) :
    Verdict.Matches (SameButKey schema input) (schema.visitMap visit fields entries path)
      (other.visitMap later others entries path) := by
  have sameKeys : ∀ key, other.MissesKey (renumbering.rename id) entries key ↔
      schema.MissesKey id entries key := fun key =>
    renumbering.missesKey_iff linked otherCoherent inRange
  have present := missingKey?_eq_none_iff_missesKey linked.coherent declared entries
  have otherPresent := missingKey?_eq_none_iff_missesKey otherCoherent otherDeclared entries
  simp only [sameKeys, ← present] at otherPresent
  unfold visitMap
  cases missing : schema.missingKey? fields entries with
  | none =>
      rw [otherPresent.mpr missing]
      refine (visitEntries_matches renumbering .same ?found ?skips ?visits).map _
      case found =>
        intro key
        rw [← step?_of_keyed declared, ← step?_of_keyed otherDeclared]
        exact renumbering.step?_eq linked.coherent otherCoherent inRange (.field key)
      case skips =>
        intro key child found
        have isChild : schema.step? id (.field key) = some child := by
          rw [step?_of_keyed declared, found]
        exact (renumbering.child_renumbered linked isChild).sameRules.skips_eq
      case visits =>
        intro key child part found member
        exact visits _ child part (declaredPart_field declared found member)
  | some key =>
      cases otherMissing : other.missingKey? others entries with
      | none =>
          rw [otherPresent.mp otherMissing] at missing
          cases missing
      | some otherKey =>
          have misses := missesKey_of_missingKey? linked.coherent declared missing
          have missesOther := missesKey_of_missingKey? otherCoherent otherDeclared otherMissing
          exact .error (.keys position.reaches position.resolve?_eq_some misses
            ((sameKeys otherKey).mp missesOther))

/-- The parts of a value of the right type match beneath renumbered nodes where the visits of its
declared parts do. -/
theorem visitParts_matches {input value : Value}
    (ofType : TypeName.classify value = some (schema.node id).type)
    (position : value.isScalar = false → schema.Position Schema.root input path id value)
    (visits : ∀ segment child part, schema.DeclaredPart id value segment child part →
      Verdict.Matches (SameButKey schema input) (visit child part (path ++ [segment]))
        (later (renumbering.rename child) part (path ++ [segment]))) :
    Verdict.Matches (SameButKey schema input)
      (schema.visitParts limit depth visit (schema.node id) value path)
      (other.visitParts limit depth later (other.node (renumbering.rename id)) value path) := by
  have renumbered := renumbering.nodes id inRange
  have children := renumbered.children
  have whole : schema.Coherent := linked.coherent
  have coherent := whole.ofType id
  generalize otherDeclared : (other.node (renumbering.rename id)).children = others at children
  cases declared : (schema.node id).children with
  | scalar =>
      rw [declared] at children
      cases children
      unfold visitParts
      rw [declared, otherDeclared]
      exact .refl .same _
  | keyed fields =>
      rw [declared] at children coherent
      obtain ⟨entries, rfl⟩ := TypeName.exists_map_of_classify (coherent.of_keyed ▸ ofType)
      cases children with
      | @keyed _ others reordered =>
          by_cases isEmpty : fields = []
          · subst isEmpty
            rw [List.map_nil, List.perm_nil] at reordered
            subst reordered
            rw [visitParts_openMap declared, visitParts_openMap otherDeclared,
              renumbered.checkEntries_eq]
            exact .refl .same _
          · have nonempty : others ≠ [] := by
              rintro rfl
              exact isEmpty (List.map_eq_nil_iff.mp reordered.nil_eq.symm)
            rw [visitParts_fields declared isEmpty, visitParts_fields otherDeclared nonempty]
            exact renumbering.visitMap_matches linked otherCoherent inRange declared otherDeclared
              (position rfl) visits
  | positional items =>
      rw [declared] at children coherent
      obtain ⟨elements, rfl⟩ := TypeName.exists_seq_of_classify (coherent.of_positional ▸ ofType)
      cases children
      by_cases isEmpty : items = []
      · subst isEmpty
        rw [visitParts_openSeq declared, visitParts_openSeq otherDeclared,
          renumbered.checkElements_eq]
        exact .refl .same _
      · have nonempty : items.map renumbering.rename ≠ [] := by simpa using isEmpty
        rw [visitParts_items declared isEmpty, visitParts_items otherDeclared nonempty]
        exact renumbering.visitSeq_matches linked declared visits
  | homogeneous template =>
      rw [declared] at children coherent
      obtain ⟨elements, rfl⟩ := TypeName.exists_seq_of_classify (coherent.of_homogeneous ▸ ofType)
      cases children
      have isChild := step?_of_homogeneous declared 0
      rw [visitParts_elements declared, visitParts_elements otherDeclared]
      refine (visitElements_matches renumbering 0
        (renumbering.child_renumbered linked isChild).sameRules.skips_eq ?_).map _
      intro offset part held
      rw [Nat.zero_add]
      exact visits _ template part (declaredPart_element declared held)

end Parts

end Members

/-! ## Visits -/

/-- The visits of renumbered nodes on one value at one place match. -/
theorem visit_matches (linked : schema.nodes.Linked) (otherCoherent : other.Coherent)
    (limit : Nat) {input : Value} (depth : Nat) (id : NodeId) (value : Value) (path : Path) :
    id < schema.nodes.size → schema.Position Schema.root input path id value →
      Verdict.Matches (SameButKey schema input) (schema.visit limit depth id value path)
        (other.visit limit depth (renumbering.rename id) value path) := by
  refine visit_induction
    (fun depth id value path verdict => id < schema.nodes.size →
      schema.Position Schema.root input path id value →
        Verdict.Matches (SameButKey schema input) verdict
          (other.visit limit depth (renumbering.rename id) value path))
    ?beyond ?step depth id value path
  case beyond =>
    intro depth id value path tooDeep inRange position
    rw [visit_beyond tooDeep]
    exact .error (.same _)
  case step =>
    intro depth id value path inLimit below inRange position
    have renumbered := renumbering.nodes id inRange
    by_cases isNil : value = .nil
    · subst isNil
      rw [visit_of_nil inLimit, visit_of_nil inLimit, renumbered.sameRules.acceptsNil_eq]
      exact .refl .same _
    cases ofType : TypeName.classify value with
    | none =>
        rw [visit_unclassified inLimit ofType, visit_unclassified inLimit ofType, renumbered.type]
        exact .error (.same _)
    | some observed =>
        rw [visit_classified inLimit ofType isNil, visit_classified inLimit ofType isNil,
          renumbered.sameRules.conform_eq]
        cases conforms : (schema.node id).conform observed value with
        | error failure => exact .error (.same _)
        | ok converted =>
            simp only [Except.mapError, Except.bind, renumbered.applyHooks_eq]
            obtain ⟨convertedOfType, source⟩ := Node.conform_eq_ok ofType isNil conforms
            -- A container is not converted, so its parts are those of the value itself.
            have unconverted : converted.isScalar = false → converted = value := by
              intro container
              rcases source with same | ⟨-, scalar, -⟩
              · exact same
              · rw [scalar] at container
                cases container
            refine (renumbering.visitParts_matches linked otherCoherent inRange convertedOfType
              ?position ?visits).bind fun _ => .refl .same _
            case position =>
              intro container
              rw [unconverted container]
              exact position
            case visits =>
              intro segment child part isPart
              rw [unconverted isPart.within.isScalar_eq_false] at isPart
              exact below child part (path ++ [segment]) (lt_size_of_step? linked isPart.declared)
                (position.snoc isPart)

end Renumbering

/-! ## Whole inputs -/

/-- Renumbering the nodes of a schema and reordering its fields changes no verdict, but for which of
the missing keys of a map is named. -/
theorem Renumbering.reduce_matches (renumbering : schema.Renumbering other)
    (linked : schema.nodes.Linked) (otherCoherent : other.Coherent) (limit : Nat) (input : Value) :
    Verdict.Matches (SameButKey schema input) (schema.reduce limit input)
      (other.reduce limit input) := by
  have rootRenumbered := renumbering.nodes Schema.root linked.hasRoot
  have visited := renumbering.visit_matches linked otherCoherent limit 0 Schema.root input []
    linked.hasRoot (.here Schema.root input)
  rw [renumbering.root] at rootRenumbered visited
  unfold reduce
  dsimp only
  rw [rootRenumbered.sameRules.isRequired_eq, rootRenumbered.options]
  split
  · exact .refl .same _
  · exact visited

/-- In which order fields are declared, and how nodes are numbered, cannot be observed but in one
place: two schemas of the same tree accept the same inputs with the same outputs and fail at the
same places with the same failures, except that where a map misses several required keys each may
name another one of them. -/
theorem validate_renumbered (built : schema.Built) (otherBuilt : other.Built)
    (renumbering : schema.Renumbering other) (config : EngineConfig) (input : Value) :
    (∃ output, schema.validate config input = .ok output ∧
      other.validate config input = .ok output) ∨
    (∃ error, schema.validate config input = .error error ∧
      other.validate config input = .error error) ∨
    ∃ path id entries key otherKey,
      schema.validate config input = .error ⟨path, .requiredKeysMissing key⟩ ∧
      other.validate config input = .error ⟨path, .requiredKeysMissing otherKey⟩ ∧
      input.Reaches path (.map entries) ∧ schema.resolve? root path = some id ∧
      schema.MissesKey id entries key ∧ schema.MissesKey id entries otherKey := by
  have agree := renumbering.reduce_matches built.linked otherBuilt.coherent config.depthLimit input
  unfold validate
  generalize schema.reduce config.depthLimit input = first at agree
  generalize other.reduce config.depthLimit input = second at agree
  cases agree with
  | ok output => exact .inl ⟨output, rfl, rfl⟩
  | error alike =>
      cases alike with
      | same => exact .inr (.inl ⟨_, rfl, rfl⟩)
      | keys reaches declared misses missesOther =>
          exact .inr (.inr ⟨_, _, _, _, _, rfl, rfl, reaches, declared, misses, missesOther⟩)

/-! ### A point declared in two orders -/

def labelFirst : Schema where
  nodes := #[
    { key := none, parent := none, type := .object, options := {},
      children := .keyed [("label", 1), ("point", 2)] },
    { key := some (.field "label"), parent := some 0, type := .string, options := {},
      children := .scalar },
    { key := some (.field "point"), parent := some 0, type := .object, options := {},
      children := .keyed [("x", 3), ("y", 4)] },
    { key := some (.field "x"), parent := some 2, type := .integer, options := {},
      children := .scalar },
    { key := some (.field "y"), parent := some 2, type := .integer, options := {},
      children := .scalar }]
  strict := true

def pointFirst : Schema where
  nodes := #[
    { key := none, parent := none, type := .object, options := {},
      children := .keyed [("point", 1), ("label", 4)] },
    { key := some (.field "point"), parent := some 0, type := .object, options := {},
      children := .keyed [("y", 2), ("x", 3)] },
    { key := some (.field "y"), parent := some 1, type := .integer, options := {},
      children := .scalar },
    { key := some (.field "x"), parent := some 1, type := .integer, options := {},
      children := .scalar },
    { key := some (.field "label"), parent := some 0, type := .string, options := {},
      children := .scalar }]
  strict := true

theorem labelFirst_built : labelFirst.Built := by
  have made : Schema.build true [.field "label" .string {},
      .object "point" {} [.field "x" .integer {}, .field "y" .integer {}]] = .ok labelFirst := rfl
  exact .define made

theorem pointFirst_built : pointFirst.Built := by
  have made : Schema.build true
      [.object "point" {} [.field "y" .integer {}, .field "x" .integer {}],
        .field "label" .string {}] = .ok pointFirst := rfl
  exact .define made

def pointRenumbering : labelFirst.Renumbering pointFirst where
  rename
    | 1 => 4
    | 2 => 1
    | 4 => 2
    | id => id
  root := rfl
  strict := rfl
  nodes id inRange :=
    match id, inRange with
    | 0, _ => ⟨rfl, rfl, .keyed (.swap ("label", 4) ("point", 1) [])⟩
    | 1, _ => ⟨rfl, rfl, .scalar⟩
    | 2, _ => ⟨rfl, rfl, .keyed (.swap ("x", 3) ("y", 2) [])⟩
    | 3, _ => ⟨rfl, rfl, .scalar⟩
    | 4, _ => ⟨rfl, rfl, .scalar⟩

/-- Without coordinates, the first schema misses `x` and the second one `y`. -/
theorem point_renumbered :
    labelFirst.validate {} (.map [("label", .text "a"), ("point", .map [])]) =
        .error ⟨[.field "point"], .requiredKeysMissing "x"⟩ ∧
      pointFirst.validate {} (.map [("label", .text "a"), ("point", .map [])]) =
        .error ⟨[.field "point"], .requiredKeysMissing "y"⟩ ∧
      ∃ path id entries key otherKey,
        labelFirst.validate {} (.map [("label", .text "a"), ("point", .map [])]) =
          .error ⟨path, .requiredKeysMissing key⟩ ∧
        pointFirst.validate {} (.map [("label", .text "a"), ("point", .map [])]) =
          .error ⟨path, .requiredKeysMissing otherKey⟩ ∧
        Value.Reaches (.map [("label", .text "a"), ("point", .map [])]) path (.map entries) ∧
        labelFirst.resolve? root path = some id ∧
        labelFirst.MissesKey id entries key ∧ labelFirst.MissesKey id entries otherKey := by
  have first : labelFirst.validate {} (.map [("label", .text "a"), ("point", .map [])]) =
      .error ⟨[.field "point"], .requiredKeysMissing "x"⟩ := by cbv
  have second : pointFirst.validate {} (.map [("label", .text "a"), ("point", .map [])]) =
      .error ⟨[.field "point"], .requiredKeysMissing "y"⟩ := by cbv
  refine ⟨first, second, ?_⟩
  rcases validate_renumbered labelFirst_built pointFirst_built pointRenumbering {}
      (.map [("label", .text "a"), ("point", .map [])]) with
    ⟨output, accepted, -⟩ | ⟨error, failed, otherFailed⟩ | missing
  · rw [first] at accepted
    cases accepted
  · rw [first] at failed
    rw [second] at otherFailed
    cases failed
    simp at otherFailed
  · exact missing

end Schema

end ParamSchema
