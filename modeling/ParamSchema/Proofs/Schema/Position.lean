import ParamSchema.Proofs.Value.Places
import ParamSchema.Schema.Basic

/-!
Contract: the places of a value that a schema declares.

Owns:
- the declared positions of a value, each with its node;
- the positions that a walk visits: those on the way to which nothing is left out.

Does not own: what has to hold at a position (`Proofs.Validation.Conformance`).
-/

namespace ParamSchema

namespace Schema

variable {schema : Schema}

/-- A part of a value together with the node that the schema declares for it. -/
structure DeclaredPart (schema : Schema) (id : NodeId) (value : Value) (segment : Segment)
    (child : NodeId) (part : Value) : Prop where
  declared : schema.step? id segment = some child
  within : value.Part segment part

/-- A declared part that its node does not leave out. -/
structure VisitedPart (schema : Schema) (id : NodeId) (value : Value) (segment : Segment)
    (child : NodeId) (part : Value) : Prop extends
    DeclaredPart schema id value segment child part where
  kept : (schema.node child).skips part = false

/-- Nil in the place of an optional item. -/
structure Placeholder (schema : Schema) (id child : NodeId) (part : Value) : Prop where
  isNil : part = .nil
  optional : (schema.node child).options.optional = true
  ofItem : ∃ items, (schema.node id).children = .positional items

section Steps

variable {id child : NodeId} {value part : Value} {segment : Segment}

theorem step?_of_keyed {fields : List (String × NodeId)}
    (declared : (schema.node id).children = .keyed fields) (key : String) :
    schema.step? id (.field key) = fields.lookup key := by
  rw [step?, child?, declared, Children.child?]

theorem step?_of_positional {items : List NodeId}
    (declared : (schema.node id).children = .positional items) (index : Nat) :
    schema.step? id (.index index) = items[index]? := by
  rw [step?, item?, declared, Children.item?]

theorem step?_of_homogeneous {template : NodeId}
    (declared : (schema.node id).children = .homogeneous template) (index : Nat) :
    schema.step? id (.index index) = some template := by
  rw [step?, item?, declared, Children.item?]

theorem Placeholder.skipped (placeholder : schema.Placeholder id child part) :
    (schema.node child).skips part = true := by
  rw [placeholder.isNil]
  simp [Node.skips, Value.isNil, placeholder.optional]

theorem VisitedPart.not_placeholder (isPart : schema.VisitedPart id value segment child part) :
    ¬schema.Placeholder id child part := by
  intro placeholder
  have skipped := placeholder.skipped
  rw [isPart.kept] at skipped
  cases skipped

/-- A declared part of a map stands under a declared key. -/
theorem DeclaredPart.of_map {entries : List (String × Value)}
    (isPart : schema.DeclaredPart id (.map entries) segment child part) :
    ∃ fields key, (schema.node id).children = .keyed fields ∧ segment = .field key ∧
      fields.lookup key = some child ∧ (key, part) ∈ entries := by
  obtain ⟨declared, within⟩ := isPart
  cases within with
  | @entry _ key _ member =>
      unfold step? child? at declared
      cases children : (schema.node id).children with
      | keyed fields =>
          rw [children] at declared
          exact ⟨fields, key, rfl, rfl, declared, member⟩
      | scalar | positional | homogeneous =>
          rw [children] at declared
          cases declared

/-- A declared part of a list stands at the place of an item or under a template. -/
theorem DeclaredPart.of_seq {elements : List Value}
    (isPart : schema.DeclaredPart id (.seq elements) segment child part) :
    ∃ index, segment = .index index ∧ elements[index]? = some part ∧
      ((∃ items, (schema.node id).children = .positional items ∧ items[index]? = some child) ∨
        (schema.node id).children = .homogeneous child) := by
  obtain ⟨declared, within⟩ := isPart
  cases within with
  | @element _ index _ held =>
      unfold step? item? at declared
      cases children : (schema.node id).children with
      | positional items =>
          rw [children] at declared
          exact ⟨index, rfl, held, .inl ⟨items, rfl, declared⟩⟩
      | homogeneous template =>
          rw [children] at declared
          cases declared
          exact ⟨index, rfl, held, .inr rfl⟩
      | scalar | keyed =>
          rw [children] at declared
          cases declared

/-- Nothing is declared beneath a node for scalars. -/
theorem not_declaredPart_of_scalar (declared : (schema.node id).children = .scalar) :
    ¬schema.DeclaredPart id value segment child part := by
  rintro ⟨step, -⟩
  cases segment with
  | field key =>
      unfold step? child? at step
      rw [declared] at step
      cases step
  | index index =>
      unfold step? item? at step
      rw [declared] at step
      cases step

theorem not_declaredPart_of_isUndeclared
    (undeclared : (schema.node id).children.isUndeclared = true) :
    ¬schema.DeclaredPart id value segment child part := by
  intro isPart
  cases isPart.within with
  | entry member =>
      obtain ⟨fields, key, declared, -, found, -⟩ := isPart.of_map
      rw [declared, Children.isUndeclared, List.isEmpty_iff] at undeclared
      rw [undeclared] at found
      cases found
  | element held =>
      obtain ⟨index, -, -, ⟨items, declared, found⟩ | declared⟩ := isPart.of_seq
      · rw [declared, Children.isUndeclared, List.isEmpty_iff] at undeclared
        rw [undeclared] at found
        cases found
      · rw [declared] at undeclared
        cases undeclared

theorem declaredPart_field {fields : List (String × NodeId)} {entries : List (String × Value)}
    {key : String} (declared : (schema.node id).children = .keyed fields)
    (found : fields.lookup key = some child) (member : (key, part) ∈ entries) :
    schema.DeclaredPart id (.map entries) (.field key) child part := by
  refine ⟨?_, .entry member⟩
  rw [step?_of_keyed declared]
  exact found

theorem declaredPart_item {items : List NodeId} {elements : List Value} {index : Nat}
    (declared : (schema.node id).children = .positional items)
    (found : items[index]? = some child) (held : elements[index]? = some part) :
    schema.DeclaredPart id (.seq elements) (.index index) child part := by
  refine ⟨?_, .element held⟩
  rw [step?_of_positional declared]
  exact found

theorem declaredPart_element {elements : List Value} {index : Nat}
    (declared : (schema.node id).children = .homogeneous child)
    (held : elements[index]? = some part) :
    schema.DeclaredPart id (.seq elements) (.index index) child part := by
  exact ⟨step?_of_homogeneous declared index, .element held⟩

end Steps

/-! ## Positions -/

/-- The declared positions of a value, seen from a node: the value itself, and with a declared part
all positions of that part. The path leads from the value to the position. -/
inductive Position (schema : Schema) : NodeId → Value → Path → NodeId → Value → Prop where
  | here (id : NodeId) (value : Value) : Position schema id value [] id value
  | beneath {id child found : NodeId} {value part target : Value} {segment : Segment} {path : Path}
      (first : schema.DeclaredPart id value segment child part)
      (rest : Position schema child part path found target) :
      Position schema id value (segment :: path) found target

/-- The positions to which a walk descends: at every step the part is not left out. -/
inductive Visited (schema : Schema) : NodeId → Value → Path → NodeId → Value → Prop where
  | here (id : NodeId) (value : Value) : Visited schema id value [] id value
  | beneath {id child found : NodeId} {value part target : Value} {segment : Segment} {path : Path}
      (first : schema.VisitedPart id value segment child part)
      (rest : Visited schema child part path found target) :
      Visited schema id value (segment :: path) found target

section Positions

variable {id found : NodeId} {value target : Value} {path : Path}

/-- A position below a value is a declared part of another position. -/
theorem Position.exists_parent (position : schema.Position id value path found target)
    (below : path ≠ []) :
    ∃ parentPath parent holder segment, schema.Position id value parentPath parent holder ∧
      schema.DeclaredPart parent holder segment found target := by
  induction position with
  | here id value => exact absurd rfl below
  | @beneath id child found value part target segment path first rest inductionHypothesis =>
      by_cases last : path = []
      · subst last
        cases rest
        exact ⟨[], id, value, segment, .here id value, first⟩
      · obtain ⟨parentPath, parent, holder, final, inner, isPart⟩ := inductionHypothesis last
        exact ⟨segment :: parentPath, parent, holder, final, .beneath first inner, isPart⟩

/-- Nil has no positions below it. -/
theorem Position.of_nil (position : schema.Position id .nil path found target) :
    path = [] ∧ found = id ∧ target = .nil := by
  cases position with
  | here => exact ⟨rfl, rfl, rfl⟩
  | beneath first _ => cases first.within

theorem Visited.kept (visited : schema.Visited id value path found target) (below : path ≠ []) :
    (schema.node found).skips target = false := by
  induction visited with
  | here id value => exact absurd rfl below
  | @beneath id child found value part target segment path first rest inductionHypothesis =>
      by_cases last : path = []
      · subst last
        cases rest
        exact first.kept
      · exact inductionHypothesis last

/-- A declared part of a position is a position. -/
theorem Position.snoc {child : NodeId} {part : Value} {segment : Segment}
    (position : schema.Position id value path found target)
    (isPart : schema.DeclaredPart found target segment child part) :
    schema.Position id value (path ++ [segment]) child part := by
  induction position with
  | here id value => exact .beneath isPart (.here _ _)
  | beneath first rest inductionHypothesis => exact .beneath first (inductionHypothesis isPart)

end Positions

end Schema

end ParamSchema
