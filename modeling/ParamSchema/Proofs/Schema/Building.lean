import ParamSchema.Document.Declare

/-!
Contract: what runs of declarations keep.

Owns:
- the arena after one node is attached, node by node;
- the step from what attaching a node does to an arena to what every run of declarations does,
  for relations between arenas and for properties of them;
- the schemas that are built, by declarations or from a document.

Does not own: which properties are kept (`Proofs.Schema.Coherence`).
-/

namespace ParamSchema

/-! ## Attaching -/

namespace Arena

/-- An attached node has the next number and is listed by its parent, which placed it. -/
theorem attach_eq_ok {arena grown : Arena} {parent id : NodeId} {slot : Slot} {type : TypeName}
    {options : Options} (attached : arena.attach parent slot type options = .ok (grown, id)) :
    ∃ key children, (arena.node parent).place slot arena.size = .ok (key, children) ∧
      id = arena.size ∧
      grown = (arena.modify parent fun node => { node with children := children }).push
        (.fresh (some key) (some parent) type options) := by
  unfold attach at attached
  cases placed : (arena.node parent).place slot arena.size with
  | error error => rw [placed] at attached; cases attached
  | ok place =>
      obtain ⟨key, children⟩ := place
      rw [placed] at attached
      cases attached
      exact ⟨key, children, rfl, rfl, rfl⟩

section Grown

variable {arena : Arena} {parent : NodeId} {children : Children} {newcomer : Node}

theorem node_grown_size :
    Arena.node ((arena.modify parent fun node => { node with children := children }).push newcomer)
      arena.size = newcomer := by
  simp only [node, Array.getElem?_push, Array.size_modify, if_true, Option.getD_some]

/-- The parent of an added node has other children than before and is otherwise unchanged. -/
theorem node_grown_parent (inRange : parent < arena.size) :
    Arena.node ((arena.modify parent fun node => { node with children := children }).push newcomer)
      parent = { arena.node parent with children := children } := by
  have notLast : parent ≠ arena.size := Nat.ne_of_lt inRange
  simp [node, Array.getElem?_push, notLast, Array.getElem?_modify,
    Array.getElem?_eq_getElem inRange]

theorem node_grown_other {id : NodeId} (notParent : id ≠ parent) (notLast : id ≠ arena.size) :
    Arena.node ((arena.modify parent fun node => { node with children := children }).push newcomer)
      id = arena.node id := by
  simp [node, Array.getElem?_push, notLast, Array.getElem?_modify, notParent.symm]

end Grown

end Arena

/-! ## Runs of declarations -/

/-- A relation between the arenas before and after declarations beneath a node. Attaching a node
establishes it, and it goes on through what is declared beneath the same node and beneath newer
ones. -/
structure Arena.CarriesRuns (Relates : NodeId → Arena → Arena → Prop) : Prop where
  refl : ∀ parent arena, Relates parent arena arena
  size_le : ∀ {parent : NodeId} {before after : Arena}, Relates parent before after →
    before.size ≤ after.size
  attach : ∀ {arena grown : Arena} {parent id : NodeId} {slot : Slot} {type : TypeName}
    {options : Options}, parent < arena.size →
    arena.attach parent slot type options = .ok (grown, id) → Relates parent arena grown
  trans : ∀ {parent : NodeId} {before middle after : Arena}, Relates parent before middle →
    Relates parent middle after → Relates parent before after
  nested : ∀ {parent id : NodeId} {before middle after : Arena}, parent < before.size →
    before.size ≤ id → Relates parent before middle → Relates id middle after →
    Relates parent before after

section Runs

variable {Relates : NodeId → Arena → Arena → Prop}

mutual

/-- The arenas before and after a declaration are related, also when it fails. -/
theorem Declaration.run_relates (carries : Arena.CarriesRuns Relates) {parent : NodeId}
    {arena : Arena} (inRange : parent < arena.size) :
    ∀ declaration : Declaration, Relates parent arena (declaration.run parent arena).arena
  | .leaf head => by
      unfold Declaration.run
      cases outcome : arena.attach parent head.slot head.type head.options with
      | error error => exact carries.refl parent arena
      | ok result => exact carries.attach inRange outcome
  | .block head body => by
      unfold Declaration.run
      by_cases scalar : head.type.isScalar
      · rw [if_pos scalar]
        exact carries.refl parent arena
      · rw [if_neg scalar]
        cases outcome : arena.attach parent head.slot head.type head.options with
        | error error => exact carries.refl parent arena
        | ok result =>
            obtain ⟨grown, id⟩ := result
            have begins := carries.attach inRange outcome
            obtain ⟨key, children, -, rfl, isGrown⟩ := Arena.attach_eq_ok outcome
            have newInRange : arena.size < grown.size := by simp [isGrown]
            exact carries.nested inRange (Nat.le_refl _) begins
              (runAll_relates carries newInRange body)
  | .reject error => by
      unfold Declaration.run
      exact carries.refl parent arena
  | .attempt declaration => by
      unfold Declaration.run
      exact Declaration.run_relates carries inRange declaration

/-- The arenas before and after a run of declarations are related, wherever the run ends. -/
theorem runAll_relates (carries : Arena.CarriesRuns Relates) {parent : NodeId} {arena : Arena}
    (inRange : parent < arena.size) :
    ∀ body : List Declaration, Relates parent arena (runAll parent arena body).arena
  | [] => by
      unfold runAll
      exact carries.refl parent arena
  | declaration :: rest => by
      have first := Declaration.run_relates carries inRange declaration
      unfold runAll Build.andThen
      cases failure : (declaration.run parent arena).error with
      | some error => exact first
      | none =>
          have stillInRange := Nat.lt_of_lt_of_le inRange (carries.size_le first)
          exact carries.trans first (runAll_relates carries stillInRange rest)

end

end Runs

section Properties

variable {Holds : Arena → Prop}

/-- An arena has come from another when it is at least as large and the property holds of it. -/
def Arena.Follows (Holds : Arena → Prop) (before after : Arena) : Prop :=
  before.size ≤ after.size ∧ Holds after

/-- What attaching a node keeps is carried through runs. -/
theorem Arena.carriesRuns_of_attached
    (attached : ∀ {arena grown : Arena} {parent id : NodeId} {slot : Slot} {type : TypeName}
      {options : Options}, parent < arena.size → Holds arena →
      arena.attach parent slot type options = .ok (grown, id) → Holds grown) :
    CarriesRuns fun _ before after => before.size ≤ after.size ∧ (Holds before → Holds after) := by
  constructor
  case refl => exact fun _ _ => ⟨Nat.le_refl _, id⟩
  case size_le => exact fun related => related.1
  case attach =>
    intro arena grown parent id slot type options inRange outcome
    refine ⟨?_, fun holds => attached inRange holds outcome⟩
    obtain ⟨key, children, -, -, rfl⟩ := attach_eq_ok outcome
    simp
  case trans =>
    intro parent before middle after begins ends
    exact ⟨Nat.le_trans begins.1 ends.1, fun holds => ends.2 (begins.2 holds)⟩
  case nested =>
    intro parent id before middle after _ _ begins inner
    exact ⟨Nat.le_trans begins.1 inner.1, fun holds => inner.2 (begins.2 holds)⟩

/-- What attaching a node keeps holds after a declaration, also after one that fails. -/
theorem Declaration.run_follows
    (attached : ∀ {arena grown : Arena} {parent id : NodeId} {slot : Slot} {type : TypeName}
      {options : Options}, parent < arena.size → Holds arena →
      arena.attach parent slot type options = .ok (grown, id) → Holds grown)
    (parent : NodeId) (arena : Arena) (inRange : parent < arena.size) (holds : Holds arena)
    (declaration : Declaration) :
    Arena.Follows Holds arena (declaration.run parent arena).arena := by
  obtain ⟨larger, kept⟩ :=
    declaration.run_relates (Arena.carriesRuns_of_attached attached) inRange
  exact ⟨larger, kept holds⟩

/-- What attaching a node keeps holds after a run of declarations, wherever it ends. -/
theorem runAll_follows
    (attached : ∀ {arena grown : Arena} {parent id : NodeId} {slot : Slot} {type : TypeName}
      {options : Options}, parent < arena.size → Holds arena →
      arena.attach parent slot type options = .ok (grown, id) → Holds grown)
    (parent : NodeId) (arena : Arena) (inRange : parent < arena.size) (holds : Holds arena)
    (body : List Declaration) : Arena.Follows Holds arena (runAll parent arena body).arena := by
  obtain ⟨larger, kept⟩ := runAll_relates (Arena.carriesRuns_of_attached attached) inRange body
  exact ⟨larger, kept holds⟩

end Properties

/-! ## Built schemas -/

/-- A schema is built when it comes from the builder, with declarations beneath its root or
without, or from a document. -/
inductive Schema.Built : Schema → Prop where
  | leaf (type : TypeName) (options : Options) (strict : Bool) :
      Built (Schema.leaf type options strict)
  | define {type : TypeName} {options : Options} {strict : Bool} {body : List Declaration}
      {schema : Schema} (made : Schema.define type options strict body = .ok schema) :
      Built schema
  | document {document : SchemaDocument} {schema : Schema}
      (made : document.toSchema = .ok schema) : Built schema

namespace Schema

/-- The nodes of a defined schema are those that its declarations leave beneath the root. -/
theorem nodes_of_define {type : TypeName} {options : Options} {strict : Bool}
    {body : List Declaration} {schema : Schema}
    (made : Schema.define type options strict body = .ok schema) :
    schema.nodes = (runAll root (Arena.ofRoot type options) body).arena := by
  unfold define declare Build.schema at made
  by_cases scalar : type.isScalar
  · rw [if_pos scalar] at made
    cases made
  · rw [if_neg scalar] at made
    dsimp only at made
    split at made
    · cases made
    · cases made
      rfl

/-- What holds of a root alone and is kept by attaching holds of every built schema. -/
theorem Built.holds {Holds : Arena → Prop}
    (start : ∀ type options, Holds (Arena.ofRoot type options))
    (attached : ∀ {arena grown : Arena} {parent id : NodeId} {slot : Slot} {type : TypeName}
      {options : Options}, parent < arena.size → Holds arena →
      arena.attach parent slot type options = .ok (grown, id) → Holds grown)
    {schema : Schema} (built : schema.Built) : Holds schema.nodes := by
  have defined : ∀ {type options strict body}, Schema.define type options strict body = .ok schema →
      Holds schema.nodes := by
    intro type options strict body made
    rw [nodes_of_define made]
    exact (runAll_follows attached _ _ (by simp [root, Arena.ofRoot]) (start type options) body).2
  cases built with
  | leaf type options strict => exact start type options
  | define made => exact defined made
  | document made =>
      unfold SchemaDocument.toSchema at made
      dsimp only at made
      split at made
      · cases made
      · split at made
        · exact defined made
        · cases made
          exact start _ _

end Schema

end ParamSchema
