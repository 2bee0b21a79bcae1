import ParamSchema.Proofs.Schema.Building

/-!
Contract: runs that succeed exactly under a condition.

Owns:
- the condition under which a run succeeds, together with what its arena is like then;
- one run after another, around another, and as a schema;
- running declarations in two parts.

Does not own: the conditions of particular declarations.
-/

namespace ParamSchema

namespace Build

/-- A run succeeds exactly under a condition, and then its arena is as promised. -/
structure SucceedsWhen (build : Build) (condition : Prop) (promise : Arena → Prop) : Prop where
  iff : build.error = none ↔ condition
  reaches : build.error = none → promise build.arena

variable {build first : Build} {condition condition' : Prop} {promise promise' : Arena → Prop}

theorem SucceedsWhen.of_ok (succeeds : build.error = none) (holds : condition)
    (reached : promise build.arena) : build.SucceedsWhen condition promise :=
  ⟨⟨fun _ => holds, fun _ => succeeds⟩, fun _ => reached⟩

theorem SucceedsWhen.of_failed {error : DefinitionError} (failed : build.error = some error)
    (fails : ¬condition) : build.SucceedsWhen condition promise := by
  have notNone : build.error ≠ none := by simp [failed]
  exact ⟨⟨fun succeeds => absurd succeeds notNone, fun holds => absurd holds fails⟩,
    fun succeeds => absurd succeeds notNone⟩

theorem SucceedsWhen.imp (succeeds : build.SucceedsWhen condition promise)
    (same : condition ↔ condition')
    (implies : ∀ arena, condition → promise arena → promise' arena) :
    build.SucceedsWhen condition' promise' :=
  ⟨succeeds.iff.trans same, fun noError =>
    implies _ (succeeds.iff.mp noError) (succeeds.reaches noError)⟩

theorem andThen_of_some {next : Arena → Build} {error : DefinitionError}
    (failed : first.error = some error) : first.andThen next = first := by
  rw [andThen, failed]

theorem andThen_of_none {next : Arena → Build} (succeeds : first.error = none) :
    first.andThen next =
      { next first.arena with steps := first.steps ++ (next first.arena).steps } := by
  rw [andThen, succeeds]

theorem andThen_assoc (first : Build) (second third : Arena → Build) :
    (first.andThen second).andThen third =
      first.andThen fun grown => (second grown).andThen third := by
  cases outcome : first.error with
  | some error =>
      rw [andThen_of_some outcome, andThen_of_some outcome, andThen_of_some outcome]
  | none =>
      have sameError : (first.andThen second).error = (second first.arena).error := by
        rw [andThen_of_none outcome]
      cases later : (second first.arena).error with
      | some error =>
          rw [andThen_of_some (sameError.trans later), andThen_of_none outcome,
            andThen_of_none outcome, andThen_of_some later]
      | none =>
          rw [andThen_of_none (sameError.trans later), andThen_of_none outcome,
            andThen_of_none outcome, andThen_of_none later]
          simp only [List.append_assoc]

/-- What runs after a success adds its condition, and makes its own promise. -/
theorem SucceedsWhen.andThen {next : Arena → Build}
    (begins : first.SucceedsWhen condition promise)
    (ends : condition → promise first.arena →
      (next first.arena).SucceedsWhen condition' promise') :
    (first.andThen next).SucceedsWhen (condition ∧ condition') promise' := by
  cases outcome : first.error with
  | some error =>
      rw [andThen_of_some outcome]
      refine .of_failed outcome fun both => ?_
      rw [begins.iff.mpr both.1] at outcome
      cases outcome
  | none =>
      rw [andThen_of_none outcome]
      have holds := begins.iff.mp outcome
      have follows := ends holds (begins.reaches outcome)
      exact ⟨follows.iff.trans ⟨fun later => ⟨holds, later⟩, And.right⟩, follows.reaches⟩

theorem SucceedsWhen.around (inner : build.SucceedsWhen condition promise) (head : Head)
    (id : NodeId) : (Build.around head id build).SucceedsWhen condition promise :=
  ⟨inner.iff, inner.reaches⟩

theorem SucceedsWhen.schema (succeeds : build.SucceedsWhen condition promise) (strict : Bool) :
    ((∃ schema, build.schema strict = .ok schema) ↔ condition) ∧
      ∀ schema, build.schema strict = .ok schema →
        ∃ arena, schema = ⟨arena, strict⟩ ∧ promise arena := by
  rw [← succeeds.iff]
  unfold Build.schema
  cases outcome : build.error with
  | some error => simp
  | none => simpa using succeeds.reaches outcome

end Build

theorem runAll_append (parent : NodeId) (arena : Arena) (first second : List Declaration) :
    runAll parent arena (first ++ second) =
      (runAll parent arena first).andThen fun grown => runAll parent grown second := by
  induction first generalizing arena with
  | nil => rw [List.nil_append, runAll, Build.andThen_of_none rfl, List.nil_append]
  | cons declaration rest inductionHypothesis =>
      rw [List.cons_append, runAll, runAll, Build.andThen_assoc]
      simp only [inductionHypothesis]

theorem Build.SucceedsWhen.nil {parent : NodeId} {arena : Arena} {condition : Prop}
    {promise : Arena → Prop} (holds : condition) (stays : promise arena) :
    (runAll parent arena []).SucceedsWhen condition promise := by
  rw [runAll]
  exact .of_ok rfl holds stays

theorem Arena.attach_of_placed {arena : Arena} {parent : NodeId} {slot : Slot} {key : Segment}
    {children : Children} (placed : (arena.node parent).place slot arena.size = .ok (key, children))
    (type : TypeName) (options : Options) :
    arena.attach parent slot type options =
      .ok ((arena.modify parent fun node => { node with children := children }).push
        (.fresh (some key) (some parent) type options), arena.size) := by
  rw [attach, placed]

theorem Build.SucceedsWhen.append {parent : NodeId} {arena : Arena}
    {first second : List Declaration} {condition condition' : Prop}
    {promise promise' : Arena → Prop}
    (begins : (runAll parent arena first).SucceedsWhen condition promise)
    (ends : ∀ middle, condition → promise middle →
      (runAll parent middle second).SucceedsWhen condition' promise') :
    (runAll parent arena (first ++ second)).SucceedsWhen (condition ∧ condition') promise' := by
  rw [runAll_append]
  exact begins.andThen (ends _)

end ParamSchema
