import ParamSchema.Proofs.Schema.Coherence

/-!
Contract: links between parents and children.

Owns:
- the links that a node has to its children;
- arenas in which parents and children agree, and that attaching keeps them so;
- the arenas that a run of declarations passes through.

Does not own: what paths lead to.
-/

namespace ParamSchema

/-! ## Links -/

namespace Children

/-- The steps that lead to children, each with its child. A template stands for all indices and is
linked under the first. -/
def links : Children → List (Segment × NodeId)
  | scalar => []
  | keyed fields => fields.map fun field => (.field field.1, field.2)
  | positional items => items.zipIdx.map fun item => (.index item.2, item.1)
  | homogeneous template => [(.index 0, template)]

@[simp]
theorem links_ofType (type : TypeName) : (ofType type).links = [] := by
  cases type <;> rfl

end Children

/-- Placing a child adds a link to it behind all others. -/
theorem Node.links_of_place {node : Node} {slot : Slot} {child : NodeId} {key : Segment}
    {children : Children} (placed : node.place slot child = .ok (key, children)) :
    children.links = node.children.links ++ [(key, child)] := by
  unfold Node.place at placed
  split at placed
  case h_1 name fields isKeyed =>
    split at placed
    · cases placed
    · cases placed
      rw [isKeyed]
      simp [Children.links]
  case h_3 named items isPositional =>
    dsimp only at placed
    split at placed
    · cases placed
    · next notBefore =>
        split at placed
        · cases placed
        · next notBehind =>
            cases placed
            have isNext : named.getD items.length = items.length := by omega
            rw [isPositional, isNext]
            simp [Children.links, List.zipIdx_append]
  case h_4 isPositional =>
    cases placed
    rw [isPositional]
    rfl
  all_goals cases placed

namespace Arena

/-- A node is listed by one parent under one key, and nowhere else. -/
def ListedOnce (arena : Arena) (id parent : NodeId) (key : Segment) : Prop :=
  ∀ holder, (arena.node holder).children.links.filter (fun link => link.2 == id) =
    if holder = parent then [(key, id)] else []

/-- Parents and children agree: the root has no parent, and every other node is listed once, by its
parent and under its key. -/
structure Linked (arena : Arena) : Prop where
  coherent : arena.Coherent
  hasRoot : Schema.root < arena.size
  rootKey : (arena.node Schema.root).key = none
  rootParent : (arena.node Schema.root).parent = none
  placed : ∀ id, id ≠ Schema.root → id < arena.size → ∃ parent key, parent < id ∧
    (arena.node id).parent = some parent ∧ (arena.node id).key = some key ∧
      arena.ListedOnce id parent key
  inRange : ∀ holder key child, (key, child) ∈ (arena.node holder).children.links →
    holder < child ∧ child < arena.size

/-! ## Attaching -/

section Attaching

variable {arena grown : Arena} {parent id : NodeId} {slot : Slot} {type : TypeName}
  {options : Options}

/-- Attaching changes nothing of an older node but its children. -/
theorem node_of_attach (inRange : parent < arena.size)
    (attached : arena.attach parent slot type options = .ok (grown, id)) {other : NodeId}
    (older : other ≠ id) :
    ∃ children, grown.node other = { arena.node other with children := children } := by
  obtain ⟨key, children, -, rfl, rfl⟩ := attach_eq_ok attached
  by_cases isParent : other = parent
  · exact ⟨children, by rw [isParent, node_grown_parent inRange]⟩
  · exact ⟨(arena.node other).children, by rw [node_grown_other isParent older]⟩

theorem links_absent {holder : NodeId} (notInRange : arena.size ≤ holder) :
    (arena.node holder).children.links = [] := by
  rw [node, Array.getElem?_eq_none notInRange]
  rfl

/-- Attaching adds one link, from the parent to the new node. -/
theorem links_of_attach (inRange : parent < arena.size)
    (attached : arena.attach parent slot type options = .ok (grown, id)) :
    ∃ key, grown.node id = .fresh (some key) (some parent) type options ∧
      ∀ holder, (grown.node holder).children.links =
        (arena.node holder).children.links ++ if holder = parent then [(key, id)] else [] := by
  obtain ⟨key, children, placed, rfl, rfl⟩ := attach_eq_ok attached
  refine ⟨key, node_grown_size, fun holder => ?_⟩
  by_cases isParent : holder = parent
  · subst isParent
    rw [node_grown_parent inRange, if_pos rfl]
    exact Node.links_of_place placed
  · rw [if_neg isParent, List.append_nil]
    by_cases isLast : holder = arena.size
    · subst isLast
      rw [node_grown_size, links_absent (Nat.le_refl _)]
      exact Children.links_ofType type
    · rw [node_grown_other isParent isLast]

theorem size_of_attach (attached : arena.attach parent slot type options = .ok (grown, id)) :
    id = arena.size ∧ grown.size = arena.size + 1 := by
  obtain ⟨key, children, -, rfl, rfl⟩ := attach_eq_ok attached
  exact ⟨rfl, by simp⟩

/-- Attaching a node keeps parents and children in agreement. -/
theorem Linked.attach (inRange : parent < arena.size) (linked : arena.Linked)
    (attached : arena.attach parent slot type options = .ok (grown, id)) : grown.Linked := by
  obtain ⟨key, newcomer, links⟩ := links_of_attach inRange attached
  obtain ⟨rfl, size⟩ := size_of_attach attached
  have kept : ∀ {other}, other < arena.size → other < grown.size := by
    intro other inArena
    rw [size]
    exact Nat.lt_succ_of_lt inArena
  obtain ⟨rootChildren, rootNode⟩ :=
    node_of_attach inRange attached (Nat.ne_of_lt linked.hasRoot)
  constructor
  case coherent => exact linked.coherent.attach inRange attached
  case hasRoot => exact kept linked.hasRoot
  case rootKey => rw [rootNode]; exact linked.rootKey
  case rootParent => rw [rootNode]; exact linked.rootParent
  case inRange =>
    intro holder segment child isLink
    rw [links holder, List.mem_append] at isLink
    rcases isLink with older | added
    · obtain ⟨above, inArena⟩ := linked.inRange holder segment child older
      exact ⟨above, kept inArena⟩
    · split at added
      · next isParent =>
          cases List.mem_singleton.mp added
          rw [isParent, size]
          exact ⟨inRange, Nat.lt_succ_self _⟩
      · cases added
  case placed =>
    intro other notRoot inGrown
    by_cases isNew : other = arena.size
    · subst isNew
      refine ⟨parent, key, inRange, by rw [newcomer]; rfl, by rw [newcomer]; rfl, fun holder => ?_⟩
      -- Nothing has listed the new number before.
      have notListed : (arena.node holder).children.links.filter
          (fun link => link.2 == arena.size) = [] := by
        rw [List.filter_eq_nil_iff]
        intro link isLink isSize
        obtain ⟨-, inArena⟩ := linked.inRange holder link.1 link.2 isLink
        exact absurd (beq_iff_eq.mp isSize) (Nat.ne_of_lt inArena)
      rw [links holder, List.filter_append, notListed]
      split <;> simp
    · have inArena : other < arena.size := by
        rw [size] at inGrown
        exact Nat.lt_of_le_of_ne (Nat.le_of_lt_succ inGrown) isNew
      obtain ⟨above, otherKey, isAbove, hasParent, hasKey, listed⟩ :=
        linked.placed other notRoot inArena
      obtain ⟨children, otherNode⟩ := node_of_attach inRange attached isNew
      refine ⟨above, otherKey, isAbove, by rw [otherNode]; exact hasParent,
        by rw [otherNode]; exact hasKey, fun holder => ?_⟩
      have notAdded : (if holder = parent then [(key, arena.size)] else []).filter
          (fun link => link.2 == other) = [] := by
        split
        · simp [Ne.symm isNew]
        · rfl
      rw [links holder, List.filter_append, listed holder, notAdded, List.append_nil]

theorem linked_ofRoot (type : TypeName) (options : Options) : (ofRoot type options).Linked := by
  have noLinks : ∀ holder, ((ofRoot type options).node holder).children.links = [] := by
    intro holder
    cases holder with
    | zero => exact Children.links_ofType type
    | succ holder => exact links_absent (by simp [ofRoot])
  refine ⟨coherent_ofRoot type options, by simp [ofRoot, Schema.root], rfl, rfl, ?_, ?_⟩
  · intro id notRoot inRange
    exact absurd (Nat.lt_one_iff.mp inRange) notRoot
  · intro holder key child isLink
    rw [noLinks holder] at isLink
    cases isLink

end Attaching

end Arena

/-! ## Runs -/

/-- The arenas that a run of declarations passes through: before and after each declaration, also
one that fails, and the same within the blocks and attempts among them. -/
inductive Passes : NodeId → Arena → List Declaration → Arena → Prop where
  | before (parent : NodeId) (arena : Arena) (body : List Declaration) :
      Passes parent arena body arena
  | within {parent id : NodeId} {arena grown passed : Arena} {head : Head}
      {body rest : List Declaration} (composite : head.type.isScalar = false)
      (attached : arena.attach parent head.slot head.type head.options = .ok (grown, id))
      (inner : Passes id grown body passed) :
      Passes parent arena (.block head body :: rest) passed
  | attempted {parent : NodeId} {arena passed : Arena} {declaration : Declaration}
      {rest : List Declaration} (inner : Passes parent arena [declaration] passed) :
      Passes parent arena (.attempt declaration :: rest) passed
  | failed {parent : NodeId} {arena : Arena} {declaration : Declaration} {error : DefinitionError}
      (rest : List Declaration) (fails : (declaration.run parent arena).error = some error) :
      Passes parent arena (declaration :: rest) (declaration.run parent arena).arena
  | after {parent : NodeId} {arena passed : Arena} {declaration : Declaration}
      {rest : List Declaration} (succeeds : (declaration.run parent arena).error = none)
      (later : Passes parent (declaration.run parent arena).arena rest passed) :
      Passes parent arena (declaration :: rest) passed

/-- A run ends in an arena that it passes through. -/
theorem passes_runAll (parent : NodeId) (arena : Arena) (body : List Declaration) :
    Passes parent arena body (runAll parent arena body).arena := by
  induction body generalizing arena with
  | nil => exact .before parent arena []
  | cons declaration rest inductionHypothesis =>
      unfold runAll Build.andThen
      cases outcome : (declaration.run parent arena).error with
      | some error => exact .failed rest outcome
      | none => exact .after outcome (inductionHypothesis _)

/-- What attaching a node keeps holds of every arena on the way. -/
theorem Passes.holds {Holds : Arena → Prop}
    (attached : ∀ {arena grown : Arena} {parent id : NodeId} {slot : Slot} {type : TypeName}
      {options : Options}, parent < arena.size → Holds arena →
      arena.attach parent slot type options = .ok (grown, id) → Holds grown)
    {parent : NodeId} {arena passed : Arena} {body : List Declaration}
    (passes : Passes parent arena body passed) (inRange : parent < arena.size)
    (holds : Holds arena) : Holds passed := by
  induction passes with
  | before => exact holds
  | within composite isAttached inner inductionHypothesis =>
      obtain ⟨rfl, size⟩ := Arena.size_of_attach isAttached
      exact inductionHypothesis (size ▸ Nat.lt_succ_self _) (attached inRange holds isAttached)
  | attempted inner inductionHypothesis => exact inductionHypothesis inRange holds
  | failed rest fails => exact (Declaration.run_follows attached _ _ inRange holds _).2
  | after succeeds later inductionHypothesis =>
      obtain ⟨larger, grownHolds⟩ := Declaration.run_follows attached _ _ inRange holds _
      exact inductionHypothesis (Nat.lt_of_lt_of_le inRange larger) grownHolds

namespace Schema

theorem Built.linked {schema : Schema} (built : schema.Built) : schema.nodes.Linked :=
  built.holds Arena.linked_ofRoot Arena.Linked.attach

/-- Whatever is declared beneath a root, parents and children agree in every arena on the way. -/
theorem linked_of_passes {type : TypeName} {options : Options} {body : List Declaration}
    {passed : Arena} (passes : Passes root (Arena.ofRoot type options) body passed) :
    passed.Linked :=
  passes.holds Arena.Linked.attach (Arena.linked_ofRoot type options).hasRoot
    (Arena.linked_ofRoot type options)

/-- An object that fails at its second field, which is caught, and a field after it. -/
def retried : List Declaration :=
  [.attempt (.object "a" {} [.field "x" .string {}, .field "x" .integer {}]),
    .field "b" .array {}]

theorem linked_of_retried :
    (runAll root (Arena.ofRoot .object {}) retried).arena.size = 4 ∧
      Passes root (Arena.ofRoot .object {}) retried
        (runAll root (Arena.ofRoot .object {}) retried).arena ∧
      (runAll root (Arena.ofRoot .object {}) retried).arena.Linked :=
  ⟨rfl, passes_runAll root (Arena.ofRoot .object {}) retried,
    linked_of_passes (passes_runAll root (Arena.ofRoot .object {}) retried)⟩

end Schema

end ParamSchema
