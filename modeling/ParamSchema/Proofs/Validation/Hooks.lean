import Mathlib
import ParamSchema.Proofs.Validation.Comparison
import ParamSchema.Validation.Validator

/-!
Contract: the values that the hooks of a node can see.

Owns:
- the values that a node admits to its check and transform;
- that a visit hands no other value to them, whatever the hooks beneath the node return;
- that hooks which differ on other values alone cannot be told apart.

Does not own: what hooks do with the values that are admitted.
-/

namespace ParamSchema

/-! ## Admitted values -/

/-- A node admits to its check and transform the values of its own type, other than nil, that it
includes. -/
structure Node.Admits (node : Node) (value : Value) : Prop where
  notNil : value ≠ .nil
  ofType : TypeName.classify value = some node.type
  included : node.includes value = true

/-- The same node with other hooks: the checks say the same of all values that the node admits, and
the transforms do the same with those that are accepted. A check that is missing accepts, and a
transform that is missing changes nothing. -/
structure Node.RehooksTo (node other : Node) : Prop extends Node.SameRules node other where
  key : other.key = node.key
  parent : other.parent = node.parent
  children : other.children = node.children
  verdict : ∀ value, node.Admits value → other.verdict value = node.verdict value
  transformed : ∀ value, node.Admits value → node.verdict value = .ok () →
    other.transformed value = node.transformed value

/-- The same schema with other hooks, which differ at no node on a value that the node admits. -/
structure Schema.RehooksTo (schema other : Schema) : Prop where
  size : other.nodes.size = schema.nodes.size
  strict : other.strict = schema.strict
  nodes : ∀ id, (schema.node id).RehooksTo (other.node id)

/-! ## One node -/

/-- The hooks do the same with a value that is admitted once it is included. -/
theorem Node.RehooksTo.applyHooks_eq {node other : Node} (rehooks : node.RehooksTo other)
    {value : Value} (admitted : node.includes value = true → node.Admits value) (path : Path) :
    other.applyHooks path value = node.applyHooks path value := by
  apply applyHooks_congr
  case included => exact rehooks.includes_eq value
  case checked =>
    intro included
    exact rehooks.verdict value (admitted included)
  case transformed =>
    intro included accepted
    exact rehooks.transformed value (admitted included) accepted

namespace Schema

variable {schema other : Schema}

/-! ## Visits -/

/-- What a node has converted and rebuilt, and then includes, it admits to its hooks. -/
theorem admits_of_visitParts {limit depth : Nat} {visit : Visitor} {id : NodeId} {path : Path}
    {observed : TypeName} {input value output : Value}
    (ofType : TypeName.classify input = some observed) (notNil : input ≠ .nil)
    (conforms : (schema.node id).conform observed input = .ok value)
    (rebuilt : schema.visitParts limit depth visit (schema.node id) value path = .ok output)
    (included : (schema.node id).includes output = true) : (schema.node id).Admits output := by
  obtain ⟨valueOfType, source⟩ := Node.conform_eq_ok ofType notNil conforms
  have sameType := (visitParts_eq_ok_iff.mp rebuilt).classify_eq
  have outputNotNil : output ≠ .nil := by
    rintro rfl
    -- Nil is rebuilt from nil alone, which no node goes on with.
    have isNil : value = .nil := TypeName.classify_eq_nil_iff.mp sameType.symm
    subst isNil
    rcases source with same | ⟨-, -, notBlank⟩
    · exact notNil same.symm
    · cases notBlank
  exact ⟨outputNotNil, sameType.trans valueOfType, included⟩

namespace RehooksTo

variable (rehooks : schema.RehooksTo other)

include rehooks

theorem comparable : schema.Comparable (fun _ => False) other where
  type id := (rehooks.nodes id).type
  children id := (rehooks.nodes id).children
  optional id := (rehooks.nodes id).optional
  allowBlank id := (rehooks.nodes id).allowBlank
  strictness := .inl rehooks.strict

theorem visit_agrees {limit : Nat} (depth : Nat) (id : NodeId) (input : Value) (path : Path) :
    Verdict.Agrees (fun _ => False) (schema.visit limit depth id input path)
      (other.visit limit depth id input path) := by
  have comparable := rehooks.comparable
  refine visit_induction
    (fun depth id input path verdict =>
      Verdict.Agrees (fun _ => False) verdict (other.visit limit depth id input path))
    ?beyond ?step depth id input path
  case beyond =>
    intro depth id input path tooDeep
    rw [visit_beyond tooDeep]
    exact .refl _
  case step =>
    intro depth id input path inLimit children
    have node := rehooks.nodes id
    apply visit_agrees_of_parts comparable.toSameOutline inLimit inLimit
    case nil => exact .inl node.acceptsNil_eq
    case conforms => exact fun observed => .inl (node.conform_eq observed input)
    case parts =>
      apply visitParts_agrees comparable children
      intro container value place
      rw [node.checkMember_eq]
      exact .refl _
    case hooks =>
      intro observed value output ofType notNil conforms rebuilt
      have admitted := admits_of_visitParts ofType notNil conforms rebuilt
      rw [node.applyHooks_eq admitted]
      exact .refl _

end RehooksTo

/-! ## Whole inputs -/

/-- Hooks see nothing but values that their node admits: a schema whose hooks differ on other values
alone gives the same verdict on every input. -/
theorem validate_of_rehooksTo (rehooks : schema.RehooksTo other) (config : EngineConfig)
    (input : Value) : other.validate config input = schema.validate config input := by
  have visited : other.visit config.depthLimit 0 root input [] =
      schema.visit config.depthLimit 0 root input [] := (rehooks.visit_agrees 0 root input []).eq
  unfold validate reduce
  dsimp only
  rw [rehooks.comparable.isRequired_eq, (rehooks.nodes root).allowNil, visited]

/-! ### A counter with guarded hooks -/

/-- An optional count that is raised by one. -/
def counter : Schema where
  nodes := #[
    { key := none, parent := none, type := .object, options := {},
      children := .keyed [("count", 1)] },
    { key := some (.field "count"), parent := some 0, type := .integer,
      options := {
        optional := true
        coerce := true
        transform := some fun value => match value with
          | .integer count => .integer (count + 1)
          | other => other },
      children := .scalar }]
  strict := true

/-- The same counter, whose hooks refuse or spoil whatever they are not to be given. -/
def guardedCounter : Schema where
  nodes := #[
    { key := none, parent := none, type := .object,
      options := {
        check := some (.predicate fun value => match value with
          | .map _ => true
          | _ => false) },
      children := .keyed [("count", 1)] },
    { key := some (.field "count"), parent := some 0, type := .integer,
      options := {
        optional := true
        coerce := true
        transform := some fun value => match value with
          | .integer count => .integer (count + 1)
          | _ => .text "spoilt"
        check := some (.verify fun value => match value with
          | .integer _ => .ok ()
          | _ => .error "is not a count") },
      children := .scalar }]
  strict := true

theorem counter_rehooksTo_guarded : counter.RehooksTo guardedCounter where
  size := rfl
  strict := rfl
  nodes id := by
    match id with
    | 0 =>
        refine ⟨⟨rfl, rfl, rfl, rfl, rfl, rfl, rfl⟩, rfl, rfl, rfl, ?_, fun _ _ _ => rfl⟩
        intro value admitted
        obtain ⟨entries, rfl⟩ := TypeName.exists_map_of_classify admitted.ofType
        rfl
    | 1 =>
        refine ⟨⟨rfl, rfl, rfl, rfl, rfl, rfl, rfl⟩, rfl, rfl, rfl, ?verdict, ?transformed⟩
        case verdict =>
          intro value admitted
          obtain ⟨count, rfl⟩ := TypeName.exists_integer_of_classify admitted.ofType
          rfl
        case transformed =>
          intro value admitted _
          obtain ⟨count, rfl⟩ := TypeName.exists_integer_of_classify admitted.ofType
          rfl
    | id + 2 =>
        exact ⟨⟨rfl, rfl, rfl, rfl, rfl, rfl, rfl⟩, rfl, rfl, rfl, fun _ _ => rfl,
          fun _ _ _ => rfl⟩

theorem guardedCounter_counts :
    guardedCounter.validate {} (.map [("count", .integer 3)]) =
      .ok (.map [("count", .integer 4)]) := by
  have counts : counter.validate {} (.map [("count", .integer 3)]) =
      .ok (.map [("count", .integer 4)]) := by cbv
  rw [← counts]
  exact validate_of_rehooksTo counter_rehooksTo_guarded {} _

end Schema

end ParamSchema
