import ParamSchema.Proofs.Entries
import ParamSchema.Proofs.Schema.Building

/-!
Contract: nodes whose children agree with their type.

Owns:
- coherence of a node, of an arena and of a schema;
- that every built schema is coherent;
- what coherence says about each type and about look-ups by key.

Does not own: links between parents and children.
-/

namespace ParamSchema

/-- One more key that is not held keeps keys distinct. -/
theorem nodup_keys_append {κ α : Type} {fields : List (κ × α)} {key : κ} (child : α)
    (distinct : (fields.map Prod.fst).Nodup) (absent : key ∉ fields.map Prod.fst) :
    ((fields ++ [(key, child)]).map Prod.fst).Nodup := by
  rw [List.map_append, List.nodup_append]
  refine ⟨distinct, by simp, ?_⟩
  intro earlier member later isLast sameKey
  cases List.mem_singleton.mp isLast
  rw [sameKey] at member
  exact absent member

/-! ## Coherent nodes -/

/-- Objects have fields, arrays have items or a template, and all other types have nothing beneath
them. -/
inductive Children.OfType : TypeName → Children → Prop where
  | keyed (fields : List (String × NodeId)) : OfType .object (.keyed fields)
  | positional (items : List NodeId) : OfType .array (.positional items)
  | homogeneous (template : NodeId) : OfType .array (.homogeneous template)
  | scalar {type : TypeName} (isScalar : type.isScalar = true) : OfType type .scalar

namespace Children.OfType

variable {type : TypeName}

theorem of_scalar (ofType : OfType type .scalar) : type.isScalar = true := by
  cases ofType with
  | scalar isScalar => exact isScalar

theorem of_keyed {fields : List (String × NodeId)} (ofType : OfType type (.keyed fields)) :
    type = .object := by
  cases ofType
  rfl

theorem of_positional {items : List NodeId} (ofType : OfType type (.positional items)) :
    type = .array := by
  cases ofType
  rfl

theorem of_homogeneous {template : NodeId} (ofType : OfType type (.homogeneous template)) :
    type = .array := by
  cases ofType
  rfl

end Children.OfType

/-- A node is coherent when its children are of its type and no key is declared twice. -/
structure Node.Coherent (node : Node) : Prop where
  ofType : node.children.OfType node.type
  distinct : ∀ fields, node.children = .keyed fields → (fields.map Prod.fst).Nodup

def Arena.Coherent (arena : Arena) : Prop :=
  ∀ id, (arena.node id).Coherent

def Schema.Coherent (schema : Schema) : Prop :=
  schema.nodes.Coherent

namespace Node

theorem coherent_fresh (key : Option Segment) (parent : Option NodeId) (type : TypeName)
    (options : Options) : (fresh key parent type options).Coherent := by
  constructor
  · cases type with
    | object => exact .keyed []
    | array => exact .positional []
    | nil | boolean | integer | float | string => exact .scalar rfl
  · intro fields isKeyed
    cases type <;> cases isKeyed
    exact List.nodup_nil

/-- Placing a child keeps its parent coherent. -/
theorem Coherent.place {node : Node} (coherent : node.Coherent) {slot : Slot} {child : NodeId}
    {key : Segment} {children : Children} (placed : node.place slot child = .ok (key, children)) :
    Coherent { node with children := children } := by
  obtain ⟨ofType, distinct⟩ := coherent
  unfold Node.place at placed
  split at placed
  case h_1 name fields isKeyed =>
    -- A field: its key is new among distinct keys.
    split at placed
    · cases placed
    · next isAbsent =>
        cases placed
        rw [isKeyed] at ofType
        refine ⟨?_, ?_⟩
        · generalize node.type = type at ofType
          cases ofType
          exact .keyed _
        · intro grown same
          cases same
          have absent : name ∉ fields.map Prod.fst := by
            intro member
            obtain ⟨field, held, sameKey⟩ := List.mem_map.mp member
            exact isAbsent (List.lookup_isSome_iff.mpr ⟨field, held, by simp [sameKey]⟩)
          exact nodup_keys_append child (distinct fields isKeyed) absent
  case h_3 named items isPositional =>
    rw [isPositional] at ofType
    dsimp only at placed
    split at placed
    · cases placed
    · split at placed
      · cases placed
      · cases placed
        refine ⟨?_, fun fields same => by cases same⟩
        generalize node.type = type at ofType
        cases ofType
        exact .positional _
  case h_4 isPositional =>
    cases placed
    rw [isPositional] at ofType
    refine ⟨?_, fun fields same => by cases same⟩
    generalize node.type = type at ofType
    cases ofType
    exact .homogeneous _
  all_goals cases placed

end Node

namespace Arena

theorem coherent_ofRoot (type : TypeName) (options : Options) : (ofRoot type options).Coherent := by
  intro id
  cases id with
  | zero => exact Node.coherent_fresh none none type options
  | succ id => exact Node.coherent_fresh none none .nil {}

theorem Coherent.attach {arena grown : Arena} {parent id : NodeId} {slot : Slot} {type : TypeName}
    {options : Options} (inRange : parent < arena.size) (coherent : arena.Coherent)
    (attached : arena.attach parent slot type options = .ok (grown, id)) : grown.Coherent := by
  obtain ⟨key, children, placed, -, rfl⟩ := attach_eq_ok attached
  intro other
  by_cases isLast : other = arena.size
  · rw [isLast, node_grown_size]
    exact Node.coherent_fresh _ _ _ _
  · by_cases isParent : other = parent
    · rw [isParent, node_grown_parent inRange]
      exact (coherent parent).place placed
    · rw [node_grown_other isParent isLast]
      exact coherent other

end Arena

namespace Schema

/-- Every built schema is coherent. -/
theorem Built.coherent {schema : Schema} (built : schema.Built) : schema.Coherent :=
  built.holds Arena.coherent_ofRoot Arena.Coherent.attach

/-! ## Uses of coherence -/

section Uses

variable {schema : Schema} {id : NodeId}

theorem Coherent.ofType (coherent : schema.Coherent) (id : NodeId) :
    (schema.node id).children.OfType (schema.node id).type :=
  (coherent id).ofType

/-- A field that is declared is the one found under its key. -/
theorem Coherent.lookup_eq_some (coherent : schema.Coherent) {fields : List (String × NodeId)}
    (declared : (schema.node id).children = .keyed fields) {key : String} {child : NodeId}
    (member : (key, child) ∈ fields) : fields.lookup key = some child :=
  (lookup_eq_some_iff_mem ((coherent id).distinct fields declared)).mpr member

end Uses

end Schema

end ParamSchema
