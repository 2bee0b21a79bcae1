import ParamSchema.Proofs.Document.Preorder
import ParamSchema.Proofs.Schema.Success
import ParamSchema.Proofs.Value.Json

/-!
Contract: the nodes that are declared for one definition.

Owns:
- the growth of an arena by the nodes of definitions and of all below them;
- that a definition which is placed grows the arena exactly when its tree is valid, if that holds of
  the definitions beneath it;
- that a definition which cannot be placed fails.

Does not own: definitions side by side (`Proofs.Document.Bodies`).
-/

namespace ParamSchema

/-! ## Growth -/

open ParamDefinition

/-- An arena has grown beneath a parent by the nodes of definitions and all below them. -/
structure Arena.Grows (parent : NodeId) (children : Children) (definitions : List ParamDefinition)
    (before after : Arena) : Prop where
  size : after.size = before.size + (definitions.flatMap preorder).length
  others : ∀ id, id < before.size → id ≠ parent → after.node id = before.node id
  holder : after.node parent = { before.node parent with children := children }
  describes : ∀ (offset : Nat) definition,
    (definitions.flatMap preorder)[offset]? = some definition →
    definition.Describes (before.size + offset) (after.node (before.size + offset))

namespace Arena

variable {parent : NodeId} {before middle after : Arena} {children children' : Children}
  {first second : List ParamDefinition}

theorem Grows.refl (same : (before.node parent).children = children) :
    Grows parent children [] before before := by
  constructor
  case size => rfl
  case others => exact fun _ _ _ => rfl
  case holder => rw [← same]
  case describes =>
    intro offset definition isPart
    cases isPart

theorem Grows.trans (inRange : parent < before.size)
    (begins : Grows parent children first before middle)
    (ends : Grows parent children' second middle after) :
    Grows parent children' (first ++ second) before after := by
  constructor
  case size =>
    rw [ends.size, begins.size, List.flatMap_append, List.length_append, Nat.add_assoc]
  case others =>
    intro id inBefore notParent
    have inMiddle : id < middle.size := begins.size ▸ Nat.lt_add_right _ inBefore
    rw [ends.others id inMiddle notParent, begins.others id inBefore notParent]
  case holder => rw [ends.holder, begins.holder]
  case describes =>
    intro offset definition isPart
    rw [List.flatMap_append] at isPart
    -- The nodes of the first part are older than the second growth, and none is the parent.
    by_cases inFirst : offset < (first.flatMap preorder).length
    · rw [List.getElem?_append_left inFirst] at isPart
      have inMiddle : before.size + offset < middle.size :=
        begins.size ▸ Nat.add_lt_add_left inFirst _
      have notParent : before.size + offset ≠ parent :=
        Nat.ne_of_gt (Nat.lt_add_right _ inRange)
      rw [ends.others _ inMiddle notParent]
      exact begins.describes offset definition isPart
    · have behind := Nat.le_of_not_lt inFirst
      rw [List.getElem?_append_right behind] at isPart
      have place : before.size + offset =
          middle.size + (offset - (first.flatMap preorder).length) := by
        rw [begins.size, Nat.add_assoc, Nat.add_sub_cancel' behind]
      rw [place]
      exact ends.describes _ definition isPart

end Arena

/-! ## Single definitions -/

namespace ParamDefinition

variable {arena grown after : Arena} {parent id : NodeId} {definition : ParamDefinition}
  {type : TypeName}

/-- Beneath a node of its type and without children, the declarations of a definition succeed when
all definitions of its tree are valid. -/
def BodyRuns (definition : ParamDefinition) : Prop :=
  ∀ (arena : Arena) (id : NodeId) (type : TypeName), id < arena.size →
    TypeName.lookup definition.typeName = some type → type.isScalar = false →
    (arena.node id).children = .ofType type →
      (runAll id arena definition.body).SucceedsWhen definition.TreeValid
        (Arena.Grows id (definition.childrenAt type arena.size) definition.beneath arena)

/-- The node of a definition and the nodes beneath it are as the definitions say. -/
theorem describes_of_grows (registered : TypeName.lookup definition.typeName = some type)
    (isLast : grown.size = id + 1) (ofType : (grown.node id).type = type)
    (withOptions : (grown.node id).options = definition.options)
    (grows : Arena.Grows id (definition.childrenAt type grown.size) definition.beneath grown after)
    (offset : Nat) {part : ParamDefinition} (isPart : definition.preorder[offset]? = some part) :
    part.Describes (id + offset) (after.node (id + offset)) := by
  rw [preorder_eq] at isPart
  cases offset with
  | zero =>
      cases isPart
      rw [Nat.add_zero, grows.holder, isLast]
      constructor
      case type => rw [registered, ofType]
      case inclusion => rw [withOptions]; exact Value.ofElements_eq_map _
      case children => rw [ofType]
      all_goals rw [withOptions]; rfl
  | succ offset =>
      rw [List.getElem?_cons_succ] at isPart
      have described := grows.describes offset part isPart
      rw [isLast, Nat.add_assoc, Nat.add_comm 1 offset] at described
      exact described

/-- Placed beneath a parent, the node of a definition and the nodes beneath it are the growth of
the arena. -/
theorem grows_of_placed (registered : TypeName.lookup definition.typeName = some type)
    (inRange : parent < arena.size) (key : Segment) (children : Children)
    (placed : grown = (arena.modify parent fun node => { node with children := children }).push
      (.fresh (some key) (some parent) type definition.options))
    (inner : Arena.Grows arena.size (definition.childrenAt type grown.size) definition.beneath
      grown after) : Arena.Grows parent children [definition] arena after := by
  have isLast : grown.size = arena.size + 1 := by simp [placed]
  have isNew : grown.node arena.size = .fresh (some key) (some parent) type definition.options := by
    rw [placed, Arena.node_grown_size]
  have notNew : ∀ {older}, older < arena.size → after.node older = grown.node older := by
    intro older inArena
    exact inner.others older (isLast ▸ Nat.lt_succ_of_lt inArena) (Nat.ne_of_lt inArena)
  constructor
  case size =>
    rw [inner.size, isLast, List.flatMap_singleton, preorder_eq, List.length_cons]
    omega
  case others =>
    intro older inArena notParent
    rw [notNew inArena, placed, Arena.node_grown_other notParent (Nat.ne_of_lt inArena)]
  case holder => rw [notNew inRange, placed, Arena.node_grown_parent inRange]
  case describes =>
    intro offset part isPart
    rw [List.flatMap_singleton] at isPart
    exact describes_of_grows registered isLast (by rw [isNew]; rfl) (by rw [isNew]; rfl) inner
      offset isPart

/-- A definition that is placed makes its node and all below it exactly when its tree is valid. -/
theorem declaration_run (runs : definition.BodyRuns) (inRange : parent < arena.size) {slot : Slot}
    {key : Segment} {children : Children}
    (placed : (arena.node parent).place slot arena.size = .ok (key, children))
    (leaf block : Keyword) :
    ((definition.declaration leaf block slot definition.body).run parent arena).SucceedsWhen
      definition.TreeValid (Arena.Grows parent children [definition] arena) := by
  unfold declaration
  cases registered : TypeName.lookup definition.typeName with
  | none =>
      exact .of_failed (by rw [Declaration.run]) (not_treeValid_of_unknown registered)
  | some type =>
      have attached := Arena.attach_of_placed placed type definition.options
      -- Only the new node and the size of the grown arena matter from here on.
      generalize isGrown : (arena.modify parent fun node => { node with children := children }).push
        (.fresh (some key) (some parent) type definition.options) = grown at attached
      have isNew : Arena.node grown arena.size =
          .fresh (some key) (some parent) type definition.options := by
        rw [← isGrown, Arena.node_grown_size]
      cases hasChildren : definition.hasChildren with
      | false =>
          simp only [Bool.false_eq_true, if_false]
          rw [Declaration.run, attached]
          refine .of_ok rfl (treeValid_of_leaf hasChildren registered)
            (grows_of_placed registered inRange key children isGrown.symm ?_)
          rw [beneath_of_leaf hasChildren, childrenAt_of_leaf hasChildren]
          exact .refl (by rw [isNew]; rfl)
      | true =>
          simp only [if_true]
          rw [Declaration.run]
          by_cases scalar : type.isScalar
          · rw [if_pos scalar]
            exact .of_failed rfl (not_treeValid_of_scalar registered hasChildren scalar)
          · rw [if_neg scalar, attached]
            have inner := runs grown arena.size type (by simp [← isGrown]) registered
              (by simpa using scalar) (by rw [isNew]; rfl)
            exact (inner.imp Iff.rfl fun after _ grows =>
              grows_of_placed registered inRange key children isGrown.symm grows).around _ _

/-- A definition that is placed, and what is run after it. -/
theorem placed_andThen (runs : definition.BodyRuns) (inRange : parent < arena.size) {slot : Slot}
    {key : Segment} {placement children : Children}
    (placed : (arena.node parent).place slot arena.size = .ok (key, placement))
    (leaf block : Keyword) {next : Arena → Build} {condition : Prop} {rest : List ParamDefinition}
    (ends : ∀ middle : Arena, parent < middle.size →
      middle.size = arena.size + definition.preorder.length →
      (middle.node parent).children = placement →
        (next middle).SucceedsWhen condition (Arena.Grows parent children rest middle)) :
    (((definition.declaration leaf block slot definition.body).run parent arena).andThen
        next).SucceedsWhen (definition.TreeValid ∧ condition)
      (Arena.Grows parent children (definition :: rest) arena) := by
  refine (declaration_run runs inRange placed leaf block).andThen fun _ grows => ?_
  have size := grows.size
  rw [List.flatMap_singleton] at size
  have stillInRange := size ▸ Nat.lt_add_right definition.preorder.length inRange
  have atHolder := congrArg Node.children grows.holder
  exact (ends _ stillInRange size atHolder).imp Iff.rfl fun _ _ later => grows.trans inRange later

theorem declaration_refused {slot : Slot} {refusal : DefinitionError}
    (refused : (arena.node parent).place slot arena.size = .error refusal) (leaf block : Keyword)
    (body : List Declaration) :
    ∃ error, ((definition.declaration leaf block slot body).run parent arena).error =
      some error := by
  have notAttached : ∀ type, arena.attach parent slot type definition.options = .error refusal := by
    intro type
    rw [Arena.attach, refused]
  unfold declaration
  cases TypeName.lookup definition.typeName with
  | none => exact ⟨_, by rw [Declaration.run]⟩
  | some type =>
      cases definition.hasChildren with
      | false =>
          simp only [Bool.false_eq_true, if_false]
          rw [Declaration.run, notAttached type]
          exact ⟨refusal, rfl⟩
      | true =>
          simp only [if_true]
          rw [Declaration.run]
          split
          · exact ⟨_, rfl⟩
          · rw [notAttached type]
            exact ⟨refusal, rfl⟩

end ParamDefinition

end ParamSchema
