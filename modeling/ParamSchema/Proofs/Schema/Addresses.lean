import Mathlib.Logic.Function.Iterate
import ParamSchema.Proofs.Schema.Linking
import ParamSchema.Proofs.Schema.Position

/-!
Contract: paths of nodes as addresses.

Owns:
- the step under which a parent lists the child that a step leads to;
- the climb along parent links, turn by turn;
- that the climb from a node ends with its path, that the path leads back to the node, and how the
  path of a child follows from that of its parent.

Does not own: paths within values (`Proofs.Schema.Position`).
-/

namespace ParamSchema

/-! ## Steps and links -/

/-- The step under which a child is listed by its parent: a template is listed under the first
index, whatever index leads to it. -/
def Children.listedUnder : Children → Segment → Segment
  | homogeneous _, _ => .index 0
  | _, segment => segment

namespace Schema

variable {schema : Schema} {id child : NodeId} {segment : Segment}

/-- A step leads to a child that is listed. -/
theorem mem_links_of_step? (leads : schema.step? id segment = some child) :
    ((schema.node id).children.listedUnder segment, child) ∈ (schema.node id).children.links := by
  cases segment with
  | field key =>
      rw [step?, child?] at leads
      cases declared : (schema.node id).children with
      | keyed fields =>
          rw [declared] at leads
          exact List.mem_map.mpr ⟨(key, child), mem_of_lookup_eq_some leads, rfl⟩
      | scalar | positional | homogeneous =>
          rw [declared] at leads
          cases leads
  | index index =>
      rw [step?, item?] at leads
      cases declared : (schema.node id).children with
      | positional items =>
          rw [declared] at leads
          exact List.mem_map.mpr
            ⟨(child, index), List.mk_mem_zipIdx_iff_getElem?.mpr leads, rfl⟩
      | homogeneous template =>
          rw [declared] at leads
          cases leads
          exact List.mem_singleton.mpr rfl
      | scalar | keyed =>
          rw [declared] at leads
          cases leads

/-- The step under which a child is listed leads to it. -/
theorem step?_of_mem_links (coherent : schema.Coherent)
    (listed : (segment, child) ∈ (schema.node id).children.links) :
    schema.step? id segment = some child := by
  cases declared : (schema.node id).children with
  | scalar =>
      rw [declared] at listed
      cases listed
  | keyed fields =>
      rw [declared] at listed
      obtain ⟨⟨key, other⟩, isField, same⟩ := List.mem_map.mp listed
      cases same
      rw [step?_of_keyed declared]
      exact coherent.lookup_eq_some declared isField
  | positional items =>
      rw [declared] at listed
      obtain ⟨⟨other, index⟩, isItem, same⟩ := List.mem_map.mp listed
      cases same
      rw [step?_of_positional declared]
      exact List.mk_mem_zipIdx_iff_getElem?.mp isItem
  | homogeneous template =>
      rw [declared] at listed
      cases List.mem_singleton.mp listed
      exact step?_of_homogeneous declared 0

/-- Whatever is declared beneath a node has a number of the schema. -/
theorem lt_size_of_step? (linked : schema.nodes.Linked)
    (leads : schema.step? id segment = some child) : child < schema.nodes.size :=
  (linked.inRange id _ child (mem_links_of_step? leads)).2

/-- A path in two parts is resolved part by part. -/
theorem resolve?_append (schema : Schema) (id : NodeId) (above below : Path) :
    schema.resolve? id (above ++ below) =
      (schema.resolve? id above).bind fun found => schema.resolve? found below := by
  induction above generalizing id with
  | nil => rfl
  | cons segment rest inductionHypothesis =>
      rw [List.cons_append, resolve?, resolve?]
      cases schema.step? id segment with
      | none => rfl
      | some next => exact inductionHypothesis next

end Schema

/-! ## Parents -/

namespace Arena.Linked

variable {arena : Arena} {holder child : NodeId} {key : Segment}

/-- A child that is listed has the holder of the list as its parent, and the step as its key. -/
theorem parent_of_link (linked : arena.Linked)
    (listed : (key, child) ∈ (arena.node holder).children.links) :
    (arena.node child).parent = some holder ∧ (arena.node child).key = some key := by
  obtain ⟨above, inArena⟩ := linked.inRange holder key child listed
  have notRoot : child ≠ Schema.root := Nat.ne_of_gt (Nat.lt_of_le_of_lt (Nat.zero_le _) above)
  obtain ⟨parent, ownKey, -, hasParent, hasKey, once⟩ := linked.placed child notRoot inArena
  -- The child is listed nowhere but by its parent, so this is that entry.
  have isListed : (key, child) ∈
      (arena.node holder).children.links.filter fun link => link.2 == child :=
    List.mem_filter.mpr ⟨listed, by simp⟩
  rw [once holder] at isListed
  by_cases isParent : holder = parent
  · rw [if_pos isParent] at isListed
    cases List.mem_singleton.mp isListed
    rw [isParent]
    exact ⟨hasParent, hasKey⟩
  · rw [if_neg isParent] at isListed
    cases isListed

/-- Every node but the root is listed by its parent under its key. -/
theorem exists_link (linked : arena.Linked) (notRoot : child ≠ Schema.root)
    (inArena : child < arena.size) :
    ∃ parent key, parent < child ∧ (key, child) ∈ (arena.node parent).children.links := by
  obtain ⟨parent, key, above, -, -, once⟩ := linked.placed child notRoot inArena
  refine ⟨parent, key, above, ?_⟩
  have isListed := once parent
  rw [if_pos rfl] at isListed
  exact (List.mem_filter.mp (isListed ▸ List.mem_singleton.mpr rfl)).1

end Arena.Linked

namespace Schema

variable {schema : Schema} {id child : NodeId} {segment : Segment}

/-! ## Paths of nodes -/

theorem pathOf_root (linked : schema.nodes.Linked) : schema.pathOf root = [] := by
  have hasKey : (schema.node root).key = none := linked.rootKey
  have hasParent : (schema.node root).parent = none := linked.rootParent
  rw [pathOf]
  simp [hasKey, hasParent]

/-- The path of a child that is listed is the path of its parent and one step more. -/
theorem pathOf_of_link (linked : schema.nodes.Linked)
    (listed : (segment, child) ∈ (schema.node id).children.links) :
    schema.pathOf child = schema.pathOf id ++ [segment] := by
  have above : id < child := (linked.inRange id segment child listed).1
  obtain ⟨hasParent, hasKey⟩ :
      (schema.node child).parent = some id ∧ (schema.node child).key = some segment :=
    linked.parent_of_link listed
  rw [pathOf]
  simp [hasParent, hasKey, above]

theorem pathOf_of_step? (linked : schema.nodes.Linked)
    (leads : schema.step? id segment = some child) :
    schema.pathOf child =
      schema.pathOf id ++ [(schema.node id).children.listedUnder segment] :=
  pathOf_of_link linked (mem_links_of_step? leads)

/-- The path of a node leads from the root to the node. -/
theorem resolve?_pathOf (linked : schema.nodes.Linked) (inRange : id < schema.nodes.size) :
    schema.resolve? root (schema.pathOf id) = some id := by
  -- Parents have smaller numbers, so the induction is on the number of the node.
  induction id using Nat.strong_induction_on with
  | _ id inductionHypothesis =>
      by_cases isRoot : id = root
      · rw [isRoot, pathOf_root linked]
        rfl
      · obtain ⟨parent, key, above, listed⟩ := linked.exists_link isRoot inRange
        have parentLeads := inductionHypothesis parent above (Nat.lt_trans above inRange)
        have leads : schema.step? parent key = some id := step?_of_mem_links linked.coherent listed
        rw [pathOf_of_link linked listed, resolve?_append, parentLeads]
        simp [resolve?, leads]

/-! ## Climbing -/

/-- A climb on its way: the node to look at next, unless the climb is over, and the steps met so
far, the lowest first. -/
structure Climb where
  next : Option NodeId
  met : List Segment

/-- One turn of a climb goes on to the parent, whatever its number is. A climb that is over stays
as it is. -/
def climb (schema : Schema) (way : Climb) : Climb :=
  match way.next with
  | none => way
  | some id => ⟨(schema.node id).parent, way.met ++ (schema.node id).key.toList⟩

/-- A climb comes to its end with the path of its node, lowest step first. -/
theorem climb_ends (linked : schema.nodes.Linked) (inRange : id < schema.nodes.size)
    (met : List Segment) :
    ∃ turns, schema.climb^[turns] ⟨some id, met⟩ = ⟨none, met ++ (schema.pathOf id).reverse⟩ := by
  induction id using Nat.strong_induction_on generalizing met with
  | _ id inductionHypothesis =>
      by_cases isRoot : id = root
      · have hasKey : (schema.node root).key = none := linked.rootKey
        have hasParent : (schema.node root).parent = none := linked.rootParent
        refine ⟨1, ?_⟩
        rw [isRoot, pathOf_root linked, Function.iterate_one]
        simp [climb, hasKey, hasParent]
      · obtain ⟨parent, key, above, listed⟩ := linked.exists_link isRoot inRange
        obtain ⟨hasParent, hasKey⟩ :
            (schema.node id).parent = some parent ∧ (schema.node id).key = some key :=
          linked.parent_of_link listed
        obtain ⟨turns, ends⟩ :=
          inductionHypothesis parent above (Nat.lt_trans above inRange) (met ++ [key])
        have firstTurn : schema.climb ⟨some id, met⟩ = ⟨some parent, met ++ [key]⟩ := by
          simp [climb, hasParent, hasKey]
        refine ⟨turns + 1, ?_⟩
        rw [Function.iterate_succ_apply, firstTurn, ends, pathOf_of_link linked listed]
        simp

/-! ## Faithful addresses -/

/-- What the paths of the nodes of a schema say about the nodes. -/
structure PathsFaithful (schema : Schema) : Prop where
  /-- The climb from a node along parent links comes to its end, and has met the path of the node
  from behind. -/
  ends : ∀ id, id < schema.nodes.size →
    ∃ turns, schema.climb^[turns] ⟨some id, []⟩ = ⟨none, (schema.pathOf id).reverse⟩
  /-- A path leads from the root to the node that it is the path of. -/
  leadsBack : ∀ id, id < schema.nodes.size → schema.resolve? root (schema.pathOf id) = some id
  distinct : ∀ id other, id < schema.nodes.size → other < schema.nodes.size → id ≠ other →
    schema.pathOf id ≠ schema.pathOf other
  ofField : ∀ id key child, schema.child? id key = some child →
    schema.pathOf child = schema.pathOf id ++ [.field key]
  ofItem : ∀ id items index child, (schema.node id).children = .positional items →
    schema.item? id index = some child → schema.pathOf child = schema.pathOf id ++ [.index index]
  /-- Whatever index a template was asked for, it stands under the first. -/
  ofTemplate : ∀ id template index child, (schema.node id).children = .homogeneous template →
    schema.item? id index = some child → schema.pathOf child = schema.pathOf id ++ [.index 0]

/-- In every built schema the paths of nodes are faithful addresses. -/
theorem pathsFaithful_of_built (built : schema.Built) : schema.PathsFaithful := by
  have linked := built.linked
  constructor
  case ends => exact fun id inRange => climb_ends linked inRange []
  case leadsBack => exact fun id inRange => resolve?_pathOf linked inRange
  case distinct =>
    intro id other inRange otherInRange different samePath
    have leads := resolve?_pathOf linked inRange
    rw [samePath, resolve?_pathOf linked otherInRange] at leads
    exact different (Option.some.inj leads).symm
  case ofField =>
    intro id key child isField
    have leads : schema.step? id (.field key) = some child := isField
    have listed := pathOf_of_step? linked leads
    cases declared : (schema.node id).children with
    | keyed fields => simpa [declared, Children.listedUnder] using listed
    | scalar | positional | homogeneous => simp [child?, declared, Children.child?] at isField
  case ofItem =>
    intro id items index child declared isItem
    have leads : schema.step? id (.index index) = some child := isItem
    have listed := pathOf_of_step? linked leads
    simpa [declared, Children.listedUnder] using listed
  case ofTemplate =>
    intro id template index child declared isItem
    have leads : schema.step? id (.index index) = some child := isItem
    have listed := pathOf_of_step? linked leads
    simpa [declared, Children.listedUnder] using listed

/-! ### A schema of points -/

/-- An object with a list of points, each of which has an abscissa. -/
def plot : Schema where
  nodes := (runAll root (.ofRoot .object {})
    [.array "points" {} [.itemsWith .object {} [.field "x" .float {}]]]).arena
  strict := true

theorem plot_built : plot.Built := by
  have made : Schema.build true
      [.array "points" {} [.itemsWith .object {} [.field "x" .float {}]]] = .ok plot := rfl
  exact .define made

/-- The node of the eighth point is that of all points, and its path names the first. -/
theorem plot_pathsFaithful :
    plot.Built ∧ plot.PathsFaithful ∧ plot.item? 1 7 = some 2 ∧
      plot.pathOf 3 = [.field "points", .index 0, .field "x"] := by
  have faithful := pathsFaithful_of_built plot_built
  have points : plot.pathOf 1 = plot.pathOf root ++ [.field "points"] :=
    faithful.ofField root "points" 1 rfl
  have point : plot.pathOf 2 = plot.pathOf 1 ++ [.index 0] := faithful.ofTemplate 1 2 7 2 rfl rfl
  have abscissa : plot.pathOf 3 = plot.pathOf 2 ++ [.field "x"] := faithful.ofField 2 "x" 3 rfl
  refine ⟨plot_built, faithful, rfl, ?_⟩
  rw [abscissa, point, points, pathOf_root plot_built.linked]
  rfl

end Schema

end ParamSchema
