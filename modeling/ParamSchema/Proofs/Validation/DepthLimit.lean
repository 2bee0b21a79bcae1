import ParamSchema.Proofs.Validation.Completeness
import ParamSchema.Proofs.Validation.Places

/-!
Contract: the limit on depth is exact.

Owns:
- outputs that keep within a limit: what may stand one level below it, and that nothing stands
  deeper;
- that every output keeps within the limit in force;
- what lies behind every error about depth.

Does not own: how the depth of a value is counted (`Proofs.Value.Nesting`).
-/

namespace ParamSchema.Schema

/-! ## Keeping within a limit -/

/-- The positions below a value at which nil holds the place of an optional item. -/
inductive HoldsPlace (schema : Schema) (start : NodeId) (value : Value) :
    Path → NodeId → Value → Prop where
  | item {above : Path} {parent id : NodeId} {holder part : Value} {segment : Segment}
      (position : schema.Position start value above parent holder)
      (isPart : schema.DeclaredPart parent holder segment id part)
      (placeholder : schema.Placeholder parent id part) :
      HoldsPlace schema start value (above ++ [segment]) id part

/-- What an output may hold under a limit on depth, where its root has depth zero. -/
structure KeepsWithin (schema : Schema) (limit : Nat) (output : Value) : Prop where
  /-- No list or map stands below the limit. -/
  containers : ∀ path value, output.Reaches path value → value.isScalar = false →
    path.length ≤ limit
  /-- Below the limit there is no declared position but the places of optional items. -/
  positions : ∀ path id value, schema.Position root output path id value →
    ¬schema.HoldsPlace root output path id value → path.length ≤ limit
  /-- One level below the limit there are only such places, and scalars in containers beneath which
  nothing is declared; deeper there is nothing. -/
  beyond : ∀ path value, output.Reaches path value → limit < path.length →
    path.length = limit + 1 ∧
      ((∃ id, schema.HoldsPlace root output path id value) ∨
        (value.isScalar = true ∧ ∃ above id container route, path = above ++ route ∧
          schema.Enclosed output above id container route value))

section Outputs

variable {schema : Schema} {limit : Nat} {id found : NodeId} {output part container target : Value}
  {above route : Path}

theorem HoldsPlace.isNil (holds : schema.HoldsPlace id output route found part) : part = .nil := by
  cases holds with
  | item _ _ placeholder => exact placeholder.isNil

theorem HoldsPlace.beneath {child : NodeId} {segment : Segment}
    (first : schema.DeclaredPart id output segment child part)
    (rest : schema.HoldsPlace child part route found target) :
    schema.HoldsPlace id output (segment :: route) found target := by
  cases rest with
  | item position isPart placeholder => exact .item (.beneath first position) isPart placeholder

/-- Where all other positions lie within a limit, one that holds a place lies at most one level
below. -/
theorem HoldsPlace.length_le
    (positions : ∀ path id value, schema.Position root output path id value →
      path.length ≤ limit ∨ schema.HoldsPlace root output path id value)
    (holds : schema.HoldsPlace root output route found part) : route.length ≤ limit + 1 := by
  cases holds with
  | @item above parent _ holder _ segment position isPart placeholder =>
      rw [List.length_append, List.length_singleton]
      rcases positions above parent holder position with within | holderHolds
      · exact Nat.succ_le_succ within
      · -- The place of an item has nothing in it.
        rw [holderHolds.isNil] at isPart
        cases isPart.within

/-- A position of what a visit gives lies within the limit, unless it holds a place. -/
theorem within_or_holdsPlace (plain : schema.Plain)
    (position : schema.Position id output route found part) :
    ∀ {depth : Nat} {input : Value} {path : Path},
      schema.visit limit depth id input path = .ok output →
        depth + route.length ≤ limit ∨ schema.HoldsPlace id output route found part := by
  induction position with
  | here id value =>
      intro depth input path visited
      exact .inl (visitStep_of_visit plain visited).1
  | @beneath id child found value part target segment route first rest inductionHypothesis =>
      intro depth input path visited
      have step := (visitStep_of_visit plain visited).2
      rcases step.origin first with placeholder | ⟨origin, source, -, visitedPart⟩
      · obtain ⟨rfl, rfl, rfl⟩ := (placeholder.isNil ▸ rest).of_nil
        rw [placeholder.isNil] at first placeholder
        exact .inr (.item (.here id value) first placeholder)
      · rw [List.length_cons, ← Nat.add_assoc, Nat.add_right_comm]
        exact (inductionHypothesis visitedPart).imp_right (.beneath first)

/-- What stands in a container beneath which nothing is declared keeps within the limit, or is a
scalar one level below. -/
theorem Enclosed.length_le (plain : schema.Plain) {input : Value}
    (reduced : schema.visit limit 0 root input [] = .ok output)
    (enclosed : schema.Enclosed output above id container route target) :
    (above ++ route).length ≤ limit + if target.isScalar then 1 else 0 := by
  obtain ⟨-, sourcePath, -, -, visited⟩ := enclosed.visited plain reduced
  obtain ⟨inLimit, step⟩ := visitStep_of_visit plain visited
  obtain ⟨-, undeclared, within, below⟩ := enclosed
  rw [List.length_append]
  cases within with
  | here => exact absurd rfl below
  | @beneath _ member _ _ rest first reaches =>
      rw [List.length_cons]
      by_cases scalar : member.isScalar
      · obtain ⟨rfl, rfl⟩ := reaches.of_isScalar scalar
        rw [if_pos scalar, List.length_nil]
        omega
      · have fits := (step.shallow plain).members undeclared member first.mem_members
          (by simpa using scalar)
        have inMember := reaches.length_le
        omega

/-- Every place of what a whole visit gives keeps within the limit, holds the place of an item, or
is a scalar in a container beneath which nothing is declared. -/
theorem keepsWithin_of_visit (coherent : schema.Coherent) (plain : schema.Plain) {input : Value}
    (reduced : schema.visit limit 0 root input [] = .ok output) :
    schema.KeepsWithin limit output := by
  have positions : ∀ path id value, schema.Position root output path id value →
      path.length ≤ limit ∨ schema.HoldsPlace root output path id value := by
    intro path id value position
    have within := within_or_holdsPlace plain position reduced
    rw [Nat.zero_add] at within
    exact within
  have beyond : ∀ path value, output.Reaches path value → limit < path.length →
      path.length = limit + 1 ∧ ((∃ id, schema.HoldsPlace root output path id value) ∨
        (value.isScalar = true ∧ ∃ above id container route, path = above ++ route ∧
          schema.Enclosed output above id container route value)) := by
    intro path value reaches below
    rcases place_of_reaches coherent plain reduced reaches with
      ⟨id, position⟩ | ⟨above, id, container, route, rfl, enclosed⟩
    · have holds := (positions path id value position).resolve_left (Nat.not_le.mpr below)
      have atMost := holds.length_le positions
      exact ⟨by omega, .inl ⟨id, holds⟩⟩
    · have atMost := enclosed.length_le plain reduced
      by_cases scalar : value.isScalar
      · rw [if_pos scalar] at atMost
        exact ⟨by omega, .inr ⟨scalar, above, id, container, route, rfl, enclosed⟩⟩
      · rw [if_neg scalar] at atMost
        omega
  refine ⟨?containers, ?positions, beyond⟩
  case containers =>
    intro path value reaches isContainer
    by_contra deeper
    obtain ⟨-, ⟨id, holds⟩ | ⟨scalar, -⟩⟩ := beyond path value reaches (Nat.lt_of_not_le deeper)
    · rw [holds.isNil] at isContainer
      cases isContainer
    · rw [scalar] at isContainer
      cases isContainer
  case positions =>
    intro path id value position notHeld
    exact (positions path id value position).resolve_right notHeld

end Outputs

/-! ## Errors about depth -/

/-- What lies behind an error about depth: a declared place one level below the limit, or a
container that a node beneath which nothing is declared would keep, and that reaches below the
limit. -/
inductive GoesTooDeep (schema : Schema) (limit : Nat) : Path → Value → Prop where
  | place {path : Path} {id : NodeId} {value : Value}
      (declared : schema.resolve? root path = some id) (beyond : path.length = limit + 1) :
      GoesTooDeep schema limit path value
  | member {parent : Path} {id : NodeId} {segment : Segment} {value : Value}
      (declared : schema.resolve? root parent = some id)
      (undeclared : (schema.node id).children.isUndeclared = true)
      (allowed : (schema.node id).options.allowNonScalars = true)
      (container : value.isScalar = false)
      (beyond : limit < (parent ++ [segment]).length + value.levels) :
      GoesTooDeep schema limit (parent ++ [segment]) value

section Limits

variable {schema : Schema} {limit : Nat}

theorem Blames.goesTooDeep {path : Path} {value : Value}
    (blames : schema.Blames limit path value .tooDeep) : schema.GoesTooDeep limit path value := by
  cases blames with
  | tooDeep declared beyond => exact .place declared beyond
  | memberTooDeep declared undeclared allowed container beyond =>
      rw [Value.nestingDepth_eq_levels] at beyond
      exact .member declared undeclared allowed container beyond

/-- The limit in force is the setting moved into its bounds. It is exact: without transforms every
output keeps within it, and an error about depth leads to a value that goes below it. -/
theorem depthLimit_exact (built : schema.Built) (config : EngineConfig)
    (clamped : limit = max 1 (min config.maxDepth 128)) (input : Value) :
    (schema.Plain → ∀ output, schema.validate config input = .ok output →
      schema.KeepsWithin limit output) ∧
    ∀ path, schema.validate config input = .error ⟨path, .tooDeep⟩ →
      ∃ value, input.Reaches path value ∧ schema.GoesTooDeep limit path value := by
  have inForce : config.depthLimit = limit := clamped.symm
  constructor
  · intro plain output accepted
    obtain ⟨-, reduced⟩ := validate_eq_ok_iff.mp accepted
    rw [inForce] at reduced
    exact keepsWithin_of_visit built.coherent plain reduced
  · intro path failed
    unfold validate reduce at failed
    rw [inForce] at failed
    dsimp only at failed
    split at failed
    · cases failed
    · obtain ⟨value, reaches, blames⟩ := visit_pointsAtBlame built.coherent 0 root input []
        (Nat.zero_le _) rfl (.here root input) _ failed
      exact ⟨value, reaches, blames.goesTooDeep⟩

end Limits

/-! ### A schema with an open object -/

/-- A strict object whose field `open` keeps whatever it holds, and whose list `slots` has one
place for an optional text. -/
def shelf : Schema where
  nodes := #[
    { key := none, parent := none, type := .object, options := {},
      children := .keyed [("open", 1), ("slots", 2)] },
    { key := some (.field "open"), parent := some 0, type := .object,
      options := { allowNonScalars := true }, children := .keyed [] },
    { key := some (.field "slots"), parent := some 0, type := .array, options := {},
      children := .positional [3] },
    { key := some (.index 0), parent := some 2, type := .string,
      options := { optional := true }, children := .scalar }]
  strict := true

theorem shelf_built : shelf.Built := by
  have made : Schema.build true [.field "open" .object { allowNonScalars := true },
      .array "slots" {} [.item .string { optional := true }]] = .ok shelf := rfl
  exact .define made

theorem shelf_plain : shelf.Plain := by
  intro id
  match id with
  | 0 | 1 | 2 | 3 => rfl
  | id + 4 => rfl

/-- A scalar of the open object and the place of the optional text stand one level below the
limit. -/
theorem validate_shelf_full :
    shelf.validate { maxDepth := 0 }
        (.map [("open", .map [("a", .boolean true)]), ("slots", .seq [.nil])]) =
      .ok (.map [("open", .map [("a", .boolean true)]), ("slots", .seq [.nil])]) := by
  cbv

/-- The container under `a` stands within the limit, but holds one that does not. -/
theorem validate_shelf_nested :
    shelf.validate { maxDepth := 2 }
        (.map [("open", .map [("a", .map [("b", .seq [])])]), ("slots", .seq [.nil])]) =
      .error ⟨[.field "open", .field "a"], .tooDeep⟩ := by
  cbv

theorem shelf_limit_exact :
    shelf.KeepsWithin 1
        (.map [("open", .map [("a", .boolean true)]), ("slots", .seq [.nil])]) ∧
      ∃ value, Value.Reaches
          (.map [("open", .map [("a", .map [("b", .seq [])])]), ("slots", .seq [.nil])])
          [.field "open", .field "a"] value ∧
        shelf.GoesTooDeep 2 [.field "open", .field "a"] value :=
  ⟨(depthLimit_exact shelf_built { maxDepth := 0 } (by decide) _).1 shelf_plain _
      validate_shelf_full,
    (depthLimit_exact shelf_built { maxDepth := 2 } (by decide) _).2 _ validate_shelf_nested⟩

end ParamSchema.Schema
