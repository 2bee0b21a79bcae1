import ParamSchema.Value.Basic

/-!
Contract: how deeply containers nest within a value.

Owns:
- the members of a value and its size;
- the count of container levels below a value, found with a list of pending values, so that the
  depth of a value costs no stack.

Does not own: the limit that the count is compared with.
-/

namespace ParamSchema.Value

/-- The elements of a list or the values of a map; a scalar has no members. -/
def members : Value → List Value
  | .seq elements => elements
  | .map entries => entries.map Prod.snd
  | _ => []

/-! ## Size -/

mutual

/-- The number of values that a value consists of, itself included. -/
def size : Value → Nat
  | .seq elements => 1 + sizeElements elements
  | .map entries => 1 + sizeEntries entries
  | _ => 1

/-- The sizes of all elements together. -/
def sizeElements : List Value → Nat
  | [] => 0
  | element :: rest => element.size + sizeElements rest

/-- The sizes of the values of all entries together. -/
def sizeEntries : List (String × Value) → Nat
  | [] => 0
  | (_, value) :: rest => value.size + sizeEntries rest

end

/-- The sizes of values waiting to be visited. -/
def pendingSize : List (Value × Nat) → Nat
  | [] => 0
  | (value, _) :: rest => value.size + pendingSize rest

/-- Values that all stand at one level. -/
def atLevel (level : Nat) : List Value → List (Value × Nat)
  | [] => []
  | value :: rest => (value, level) :: atLevel level rest

theorem pendingSize_append (left right : List (Value × Nat)) :
    pendingSize (left ++ right) = pendingSize left + pendingSize right := by
  induction left with
  | nil => simp [pendingSize]
  | cons head tail inductionHypothesis => simp [pendingSize, inductionHypothesis]; omega

theorem pendingSize_atLevel (level : Nat) (values : List Value) :
    pendingSize (atLevel level values) = sizeElements values := by
  induction values with
  | nil => simp [atLevel, pendingSize, sizeElements]
  | cons head tail inductionHypothesis =>
      simp [atLevel, pendingSize, sizeElements, inductionHypothesis]

theorem sizeElements_map_snd (entries : List (String × Value)) :
    sizeElements (entries.map Prod.snd) = sizeEntries entries := by
  induction entries with
  | nil => simp [sizeElements, sizeEntries]
  | cons head tail inductionHypothesis =>
      simp [sizeElements, sizeEntries, inductionHypothesis]

/-- A value is larger than its members together. -/
theorem size_eq_members (value : Value) :
    value.size = 1 + sizeElements value.members := by
  cases value <;> simp [size, members, sizeElements, sizeElements_map_snd]

/-! ## Levels -/

/-- The deepest level reached by the pending values, each given with its own level: a scalar
reaches the level it stands at, a container one more, and its members stand one level lower. -/
def deepestLevel (pending : List (Value × Nat)) (deepest : Nat) : Nat :=
  match pending with
  | [] => deepest
  | (value, level) :: rest =>
      deepestLevel (atLevel (level + 1) value.members ++ rest)
        (max deepest (if value.isScalar then level else level + 1))
termination_by pendingSize pending
decreasing_by
  simp only [pendingSize_append, pendingSize_atLevel, pendingSize, size_eq_members value]
  omega

/-- The number of containers on the longest way from a value down to one of its members, the
value itself not counted; scalars and containers without containers have none. -/
def nestingDepth (value : Value) : Nat :=
  deepestLevel [(value, 0)] 0 - 1

end ParamSchema.Value
