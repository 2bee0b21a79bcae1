import ParamSchema.Proofs.Schema.Building

/-!
Contract: what declarations beneath a node leave alone.

Owns:
- how the children of a node can change while others are placed behind them;
- arenas that extend others beneath one node, with everything else unchanged;
- that every run of declarations extends the arena so, wherever it ends;
- declarations that are refused before anything is declared beneath their nodes.

Does not own: agreement between parents and children (`Proofs.Schema.Linking`).
-/

namespace ParamSchema

/-! ## Children -/

/-- Children only grow: fields and items stay in front of those that are added, an array without
items may get a template, and nothing is added to a template or to a scalar. -/
inductive Children.GrowsTo : Children → Children → Prop where
  | scalar : GrowsTo .scalar .scalar
  | keyed (fields added : List (String × NodeId)) :
      GrowsTo (.keyed fields) (.keyed (fields ++ added))
  | positional (items added : List NodeId) :
      GrowsTo (.positional items) (.positional (items ++ added))
  | finalized {items : List NodeId} (empty : items = []) (template : NodeId) :
      GrowsTo (.positional items) (.homogeneous template)
  | homogeneous (template : NodeId) : GrowsTo (.homogeneous template) (.homogeneous template)

namespace Children

theorem GrowsTo.refl (children : Children) : children.GrowsTo children := by
  cases children with
  | scalar => exact .scalar
  | keyed fields =>
      have grows := GrowsTo.keyed fields []
      rwa [List.append_nil] at grows
  | positional items =>
      have grows := GrowsTo.positional items []
      rwa [List.append_nil] at grows
  | homogeneous template => exact .homogeneous template

theorem GrowsTo.trans {first second third : Children} (begins : first.GrowsTo second)
    (ends : second.GrowsTo third) : first.GrowsTo third := by
  cases begins with
  | scalar => exact ends
  | keyed fields added =>
      cases ends with
      | keyed _ more =>
          rw [List.append_assoc]
          exact .keyed fields (added ++ more)
  | positional items added =>
      cases ends with
      | positional _ more =>
          rw [List.append_assoc]
          exact .positional items (added ++ more)
      | finalized empty template => exact .finalized (List.append_eq_nil_iff.mp empty).1 template
  | finalized empty template =>
      cases ends with
      | homogeneous => exact .finalized empty template
  | homogeneous => exact ends

end Children

/-- The children with which a node places another have grown. -/
theorem Node.growsTo_of_place {node : Node} {slot : Slot} {child : NodeId} {key : Segment}
    {children : Children} (placed : node.place slot child = .ok (key, children)) :
    node.children.GrowsTo children := by
  unfold Node.place at placed
  split at placed
  case h_1 name fields isKeyed =>
    split at placed
    · cases placed
    · cases placed
      rw [isKeyed]
      exact .keyed fields [(name, child)]
  case h_3 named items isPositional =>
    dsimp only at placed
    split at placed
    · cases placed
    · split at placed
      · cases placed
      · cases placed
        rw [isPositional]
        exact .positional items [child]
  case h_4 isPositional =>
    cases placed
    rw [isPositional]
    exact .finalized rfl child
  all_goals cases placed

/-! ## Extended arenas -/

/-- An arena extends another beneath a node: no node is lost, the older ones are unchanged, and of
the node itself only the children change, which grow. -/
structure Arena.ExtendsBeneath (holder : NodeId) (before after : Arena) : Prop where
  size_le : before.size ≤ after.size
  others : ∀ id, id < before.size → id ≠ holder → after.node id = before.node id
  ofHolder : ∃ children, (before.node holder).children.GrowsTo children ∧
    after.node holder = { before.node holder with children := children }

namespace Arena

variable {arena before middle grown after : Arena} {holder id : NodeId}

theorem ExtendsBeneath.refl (holder : NodeId) (arena : Arena) : ExtendsBeneath holder arena arena :=
  ⟨Nat.le_refl _, fun _ _ _ => rfl, (arena.node holder).children, .refl _, rfl⟩

theorem ExtendsBeneath.trans (begins : ExtendsBeneath holder before middle)
    (ends : ExtendsBeneath holder middle after) : ExtendsBeneath holder before after := by
  obtain ⟨children, grows, middleHolder⟩ := begins.ofHolder
  obtain ⟨last, growsOn, afterHolder⟩ := ends.ofHolder
  rw [middleHolder] at growsOn afterHolder
  constructor
  case size_le => exact Nat.le_trans begins.size_le ends.size_le
  case others =>
    intro id older notHolder
    have inMiddle := Nat.lt_of_lt_of_le older begins.size_le
    rw [ends.others id inMiddle notHolder, begins.others id older notHolder]
  case ofHolder => exact ⟨last, grows.trans growsOn, afterHolder⟩

/-- What is done beneath a newer node leaves all older nodes alone. -/
theorem ExtendsBeneath.nested (inRange : holder < before.size) (newer : before.size ≤ id)
    (begins : ExtendsBeneath holder before middle) (ends : ExtendsBeneath id middle after) :
    ExtendsBeneath holder before after := by
  have unchanged : ∀ {older}, older < before.size → after.node older = middle.node older := by
    intro older isOlder
    exact ends.others older (Nat.lt_of_lt_of_le isOlder begins.size_le)
      (Nat.ne_of_lt (Nat.lt_of_lt_of_le isOlder newer))
  constructor
  case size_le => exact Nat.le_trans begins.size_le ends.size_le
  case others =>
    intro older isOlder notHolder
    rw [unchanged isOlder, begins.others older isOlder notHolder]
  case ofHolder =>
    rw [unchanged inRange]
    exact begins.ofHolder

/-- Attaching a node extends the arena beneath its parent. -/
theorem extendsBeneath_of_attach {slot : Slot} {type : TypeName} {options : Options}
    (inRange : holder < arena.size)
    (attached : arena.attach holder slot type options = .ok (grown, id)) :
    ExtendsBeneath holder arena grown := by
  obtain ⟨key, children, placed, rfl, rfl⟩ := attach_eq_ok attached
  constructor
  case size_le => simp
  case others =>
    intro older isOlder notHolder
    exact node_grown_other notHolder (Nat.ne_of_lt isOlder)
  case ofHolder => exact ⟨children, Node.growsTo_of_place placed, node_grown_parent inRange⟩

/-- Whatever is declared beneath a node extends the arena beneath it. -/
theorem carriesRuns_extendsBeneath : CarriesRuns ExtendsBeneath where
  refl := .refl
  size_le := ExtendsBeneath.size_le
  attach := extendsBeneath_of_attach
  trans := .trans
  nested := .nested

end Arena

/-! ## Refusals -/

/-- A run in which a declaration fails, whether or not the failure is caught, and in which nothing
is declared beneath a new node. -/
structure Build.RefusedAtOnce (build : Build) : Prop where
  fails : (∃ keyword error, .failed keyword error ∈ build.steps) ∨ build.error.isSome = true
  unentered : ∀ id, .entered id ∉ build.steps

/-- A declaration that is refused at once leaves the arena as it is. -/
theorem Declaration.arena_of_refusedAtOnce {holder : NodeId} {arena : Arena}
    (declaration : Declaration) (refused : (declaration.run holder arena).RefusedAtOnce) :
    (declaration.run holder arena).arena = arena := by
  cases declaration with
  | leaf head =>
      unfold Declaration.run at refused ⊢
      cases outcome : arena.attach holder head.slot head.type head.options with
      | error error => rfl
      | ok result =>
          rw [outcome] at refused
          rcases refused.fails with ⟨keyword, error, failed⟩ | failed
          · cases List.mem_singleton.mp failed
          · cases failed
  | block head body =>
      unfold Declaration.run at refused ⊢
      by_cases scalar : head.type.isScalar
      · rw [if_pos scalar]
        rfl
      · rw [if_neg scalar] at refused ⊢
        cases outcome : arena.attach holder head.slot head.type head.options with
        | error error => rfl
        | ok result =>
            rw [outcome] at refused
            exact absurd List.mem_cons_self (refused.unentered result.2)
  | reject error => rw [Declaration.run]
  | attempt declaration =>
      unfold Declaration.run at refused ⊢
      have caught := refused.fails.resolve_right Bool.false_ne_true
      exact declaration.arena_of_refusedAtOnce ⟨.inl caught, refused.unentered⟩

/-! ## The frame of a run -/

/-- Whatever is declared beneath a node, with errors caught or not, every other node that there was
is unchanged, the node keeps all but its children, and those only grow. A declaration that is
refused before anything is declared beneath its node changes nothing at all. -/
theorem declarations_keep_frame {holder : NodeId} {arena : Arena} (inRange : holder < arena.size) :
    (∀ body, Arena.ExtendsBeneath holder arena (runAll holder arena body).arena) ∧
    ∀ declaration : Declaration, (declaration.run holder arena).RefusedAtOnce →
      (declaration.run holder arena).arena = arena :=
  ⟨runAll_relates Arena.carriesRuns_extendsBeneath inRange, Declaration.arena_of_refusedAtOnce⟩

/-- An object with a list of one item, and a text declared after it. -/
def stocked : Arena :=
  (runAll Schema.root (.ofRoot .object {})
    [.array "list" {} [.item .integer {}], .field "name" .string {}]).arena

/-- A caught refusal beneath the list, and an item that fails at its second field. -/
theorem stocked_keeps_frame :
    1 < stocked.size ∧
      stocked.ExtendsBeneath 1 (runAll 1 stocked [.attempt (.items .string {}),
        .itemWith .object {} [.field "x" .string {}, .field "x" .integer {}]]).arena ∧
      ((Declaration.items .string {}).run 1 stocked).arena = stocked := by
  have inRange : 1 < stocked.size := by decide
  have refused : ((Declaration.items .string {}).run 1 stocked).RefusedAtOnce := by
    have steps : ((Declaration.items .string {}).run 1 stocked).steps =
      [.failed .items (.duplicateIndex 0)] := rfl
    constructor
    case fails =>
      rw [steps]
      exact .inl ⟨.items, .duplicateIndex 0, List.mem_singleton.mpr rfl⟩
    case unentered =>
      rw [steps]
      intro id entered
      cases List.mem_singleton.mp entered
  obtain ⟨extended, keeps⟩ := declarations_keep_frame inRange
  exact ⟨inRange, extended _, keeps _ refused⟩

end ParamSchema
