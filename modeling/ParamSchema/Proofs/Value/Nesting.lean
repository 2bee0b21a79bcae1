import ParamSchema.Value.Nesting

/-!
Contract: the depth of a value by recursion over its members.

Owns:
- the number of container levels below a value, as a recursion;
- the turns of the count over pending values, and that every run of them ends;
- the agreement of every run with the recursion, in whatever order it takes what is pending and in
  whatever order lists have their elements.

Does not own: the limit that the depth is compared with.
-/

namespace ParamSchema.Value

mutual

/-- The number of container levels below a value: one more than that of its deepest container, and
none where no member is a container. -/
def levels : Value → Nat
  | .seq elements => levelsElements elements
  | .map entries => levelsEntries entries
  | _ => 0

/-- The levels that a list of values has below whatever holds it. -/
def levelsElements : List Value → Nat
  | [] => 0
  | element :: rest =>
      max (if element.isScalar then 0 else 1 + element.levels) (levelsElements rest)

/-- The levels that entries have below whatever holds them. -/
def levelsEntries : List (String × Value) → Nat
  | [] => 0
  | (_, value) :: rest => max (if value.isScalar then 0 else 1 + value.levels) (levelsEntries rest)

end

theorem levelsElements_map_snd (entries : List (String × Value)) :
    levelsElements (entries.map Prod.snd) = levelsEntries entries := by
  induction entries with
  | nil => rfl
  | cons entry rest inductionHypothesis =>
      rw [List.map_cons, levelsElements, levelsEntries, inductionHypothesis]

theorem levels_eq_members (value : Value) : value.levels = levelsElements value.members := by
  cases value with
  | map entries => rw [levels, members, levelsElements_map_snd]
  | seq elements => rw [levels, members]
  | nil | boolean | integer | float | text => simp [levels, members, levelsElements]

theorem levels_of_isScalar {value : Value} (scalar : value.isScalar = true) : value.levels = 0 := by
  cases value <;> first | rfl | cases scalar

theorem levels_le_levelsElements {members : List Value} {member : Value} (held : member ∈ members)
    (container : member.isScalar = false) : 1 + member.levels ≤ levelsElements members := by
  induction members with
  | nil => cases held
  | cons first rest inductionHypothesis =>
      rw [levelsElements]
      rcases List.mem_cons.mp held with rfl | inRest
      · rw [if_neg (by simp [container])]
        exact Nat.le_max_left _ _
      · exact Nat.le_trans (inductionHypothesis inRest) (Nat.le_max_right _ _)

/-- A member that is a container adds a level to its own. -/
theorem levels_of_member {value member : Value} (isMember : member ∈ value.members)
    (container : member.isScalar = false) : 1 + member.levels ≤ value.levels := by
  rw [levels_eq_members value]
  exact levels_le_levelsElements isMember container

/-! ## Pending values -/

/-- The deepest level that pending values reach by themselves. -/
def reached : List (Value × Nat) → Nat
  | [] => 0
  | (value, level) :: rest =>
      max (if value.isScalar then level else level + 1 + value.levels) (reached rest)

theorem reached_append (left right : List (Value × Nat)) :
    reached (left ++ right) = max (reached left) (reached right) := by
  induction left with
  | nil => rw [List.nil_append, reached, Nat.zero_max]
  | cons head tail inductionHypothesis =>
      rw [List.cons_append, reached, reached, inductionHypothesis, Nat.max_assoc]

theorem max_reached_atLevel (level : Nat) (values : List Value) :
    max level (reached (atLevel level values)) = level + levelsElements values := by
  induction values with
  | nil => simp [atLevel, reached, levelsElements]
  | cons value rest inductionHypothesis =>
      rw [atLevel, reached, levelsElements]
      split <;> omega

/-- A value reaches the level that is noted for it, or one that its members reach below it. -/
theorem max_reached_members (value : Value) (level : Nat) :
    max (if value.isScalar then level else level + 1)
        (reached (atLevel (level + 1) value.members)) =
      if value.isScalar then level else level + 1 + value.levels := by
  by_cases scalar : value.isScalar
  · have noMembers : value.members = [] := by cases value <;> first | rfl | cases scalar
    rw [if_pos scalar, if_pos scalar, noMembers, atLevel, reached, Nat.max_zero]
  · rw [if_neg scalar, if_neg scalar, max_reached_atLevel, levels_eq_members]

theorem size_pos (value : Value) : 0 < value.size := by
  rw [size_eq_members]
  omega

theorem pendingSize_eq_zero_iff {pending : List (Value × Nat)} :
    pendingSize pending = 0 ↔ pending = [] := by
  cases pending with
  | nil => simp [pendingSize]
  | cons head rest =>
      have positive := size_pos head.1
      constructor
      · intro nothing
        simp only [pendingSize] at nothing
        omega
      · intro nothing
        cases nothing

/-! ## Turns -/

/-- A count under way: what is pending, each value with its level, and the deepest level noted. -/
structure Count where
  pending : List (Value × Nat)
  deepest : Nat

namespace Count

/-- The count of a value before the first turn. -/
def start (value : Value) : Count :=
  ⟨[(value, 0)], 0⟩

/-- A turn takes one pending value, wherever it stands, puts its members in its place one level
lower, and notes the level that the value reaches. -/
inductive Turn : Count → Count → Prop where
  | take (before after : List (Value × Nat)) (value : Value) (level deepest : Nat) :
      Turn ⟨before ++ (value, level) :: after, deepest⟩
        ⟨before ++ (atLevel (level + 1) value.members ++ after),
          max deepest (if value.isScalar then level else level + 1)⟩

/-- A run of so many turns, of which each may take any pending value. -/
inductive Run : Nat → Count → Count → Prop where
  | none (count : Count) : Run 0 count count
  | turn {turns : Nat} {first next last : Count} (step : Turn first next)
      (rest : Run turns next last) : Run (turns + 1) first last

variable {turns : Nat} {first last : Count}

/-- A turn takes one value away from all that the pending values consist of. -/
theorem Turn.pendingSize_eq (step : Turn first last) :
    pendingSize first.pending = 1 + pendingSize last.pending := by
  cases step with
  | take before after value level deepest =>
      simp only [pendingSize_append, pendingSize_atLevel, pendingSize, size_eq_members value]
      omega

/-- A turn keeps the deepest level that is noted or will be reached. -/
theorem Turn.deepest_eq (step : Turn first last) :
    max first.deepest (reached first.pending) = max last.deepest (reached last.pending) := by
  cases step with
  | take before after value level deepest =>
      have ofValue := max_reached_members value level
      simp only [reached_append, reached]
      omega

theorem Turn.exists_of_ne_nil (count : Count) (waiting : count.pending ≠ []) :
    ∃ next, Turn count next := by
  obtain ⟨pending, deepest⟩ := count
  cases pending with
  | nil => exact absurd rfl waiting
  | cons head rest =>
      obtain ⟨value, level⟩ := head
      exact ⟨_, .take [] rest value level deepest⟩

theorem Run.pendingSize_eq (run : Run turns first last) :
    pendingSize first.pending = turns + pendingSize last.pending := by
  induction run with
  | none count => rw [Nat.zero_add]
  | turn step rest inductionHypothesis =>
      rw [step.pendingSize_eq, inductionHypothesis]
      omega

theorem Run.deepest_eq (run : Run turns first last) :
    max first.deepest (reached first.pending) = max last.deepest (reached last.pending) := by
  induction run with
  | none count => rfl
  | turn step rest inductionHypothesis => rw [step.deepest_eq, inductionHypothesis]

section Start

variable {value : Value} {deepest : Nat}

/-- Every turn takes one of the values that a value consists of. -/
theorem Run.turns_add_pendingSize (run : Run turns (start value) last) :
    turns + pendingSize last.pending = value.size := by
  have kept := run.pendingSize_eq
  simp only [start, pendingSize, Nat.add_zero] at kept
  exact kept.symm

/-- Whichever value was taken at each turn, an ended run has noted the levels of the value. -/
theorem Run.deepest_eq_levels (run : Run turns (start value) ⟨[], deepest⟩) :
    deepest - 1 = value.levels := by
  have kept := run.deepest_eq
  simp only [start, reached, Nat.max_zero, Nat.zero_max] at kept
  rw [← kept]
  by_cases scalar : value.isScalar
  · rw [if_pos scalar, levels_of_isScalar scalar]
  · rw [if_neg scalar]
    omega

end Start

end Count

/-- The count takes the first of the pending values at every turn. -/
theorem deepestLevel_run (pending : List (Value × Nat)) (deepest : Nat) :
    Count.Run (pendingSize pending) ⟨pending, deepest⟩ ⟨[], deepestLevel pending deepest⟩ := by
  induction pending, deepest using deepestLevel.induct with
  | case1 deepest =>
      rw [deepestLevel]
      exact .none _
  | case2 deepest value level rest inductionHypothesis =>
      have step := Count.Turn.take [] rest value level deepest
      have size := step.pendingSize_eq
      simp only [List.nil_append] at step size
      rw [deepestLevel, size, Nat.add_comm]
      exact .turn step inductionHypothesis

/-- Counting with pending values agrees with the recursion. -/
theorem nestingDepth_eq_levels (value : Value) : value.nestingDepth = value.levels :=
  (deepestLevel_run [(value, 0)] 0).deepest_eq_levels

/-! ## Order of elements -/

/-- Values that differ at most in the order in which lists, at whatever depth, have their
elements. -/
inductive Reordered : Value → Value → Prop where
  | refl (value : Value) : Reordered value value
  | elements {left right : List Value} (order : left.Perm right) :
      Reordered (.seq left) (.seq right)
  | element (before after : List Value) {value other : Value} (inner : Reordered value other) :
      Reordered (.seq (before ++ value :: after)) (.seq (before ++ other :: after))
  | entry (before after : List (String × Value)) (key : String) {value other : Value}
      (inner : Reordered value other) :
      Reordered (.map (before ++ (key, value) :: after)) (.map (before ++ (key, other) :: after))
  | trans {first second third : Value} (left : Reordered first second)
      (right : Reordered second third) : Reordered first third

theorem levelsElements_eq_of_perm {left right : List Value} (order : left.Perm right) :
    levelsElements left = levelsElements right := by
  induction order with
  | nil => rfl
  | cons _ _ inductionHypothesis => simp [levelsElements, inductionHypothesis]
  | swap _ _ _ =>
      simp only [levelsElements]
      omega
  | trans _ _ first second => omega

theorem levelsElements_append (left right : List Value) :
    levelsElements (left ++ right) = max (levelsElements left) (levelsElements right) := by
  induction left with
  | nil => simp [levelsElements]
  | cons value rest inductionHypothesis =>
      simp only [List.cons_append, levelsElements, inductionHypothesis, Nat.max_assoc]

theorem Reordered.isScalar_eq {value other : Value} (same : value.Reordered other) :
    value.isScalar = other.isScalar := by
  induction same with
  | trans left right first second => exact first.trans second
  | refl | elements | element | entry => rfl

theorem Reordered.levels_eq {value other : Value} (same : value.Reordered other) :
    value.levels = other.levels := by
  induction same with
  | refl value => rfl
  | elements order =>
      rw [levels, levels]
      exact levelsElements_eq_of_perm order
  | element before after inner inductionHypothesis =>
      simp only [levels, levelsElements_append, levelsElements, inner.isScalar_eq,
        inductionHypothesis]
  | entry before after key inner inductionHypothesis =>
      simp only [levels, ← levelsElements_map_snd, List.map_append, List.map_cons,
        levelsElements_append, levelsElements, inner.isScalar_eq, inductionHypothesis]
  | trans left right first second => exact first.trans second

/-! ## The count -/

/-- What is known of the count of the levels of a value. -/
structure LevelsCounted (value : Value) : Prop where
  /-- The count is the depth by recursion. -/
  depth : value.nestingDepth = value.levels
  /-- It is a run that takes the first of the pending values at every turn. -/
  own : Count.Run value.size (.start value) ⟨[], deepestLevel [(value, 0)] 0⟩
  /-- A run has no more turns than the value consists of values. -/
  bounded : ∀ turns count, Count.Run turns (.start value) count → turns ≤ value.size
  /-- A run goes on until it has had them all. -/
  goesOn : ∀ turns count, Count.Run turns (.start value) count → turns < value.size →
    ∃ next, Count.Turn count next
  /-- Then nothing is pending, and whichever value was taken at each turn, one less than the deepest
  level noted is the depth. -/
  found : ∀ count, Count.Run value.size (.start value) count →
    count.pending = [] ∧ count.deepest - 1 = value.levels
  /-- The order of the elements of lists has no part in the count. -/
  unordered : ∀ other, value.Reordered other → other.nestingDepth = value.nestingDepth

/-- Counting with pending values ends and gives the depth by recursion, whichever pending value is
next and in whatever order lists have their elements. -/
theorem levelsCounted (value : Value) : value.LevelsCounted := by
  refine ⟨nestingDepth_eq_levels value, deepestLevel_run [(value, 0)] 0, ?bounded, ?goesOn, ?found,
    ?unordered⟩
  case bounded =>
    intro turns count run
    have total := run.turns_add_pendingSize
    omega
  case goesOn =>
    intro turns count run fewer
    apply Count.Turn.exists_of_ne_nil
    intro nothing
    have total := run.turns_add_pendingSize
    rw [nothing, pendingSize] at total
    omega
  case found =>
    intro count run
    have total := run.turns_add_pendingSize
    have nothing : count.pending = [] := by
      apply pendingSize_eq_zero_iff.mp
      omega
    obtain ⟨pending, deepest⟩ := count
    subst nothing
    exact ⟨rfl, run.deepest_eq_levels⟩
  case unordered =>
    intro other same
    rw [nestingDepth_eq_levels, nestingDepth_eq_levels, same.levels_eq]

/-- A list in an object in an object. -/
example : (Value.map [("a", .map [("b", .seq [.integer 1])])]).nestingDepth = 2 := by
  cbv

end ParamSchema.Value
