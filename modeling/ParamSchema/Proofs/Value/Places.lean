import ParamSchema.Path
import ParamSchema.Proofs.Value.Nesting

/-!
Contract: places within a value.

Owns:
- the parts of a value and the steps to them;
- the value that a path leads to;
- how deep a place lies.

Does not own: places that a schema declares (`Proofs.Schema.Position`).
-/

namespace ParamSchema.Value

/-! ## Parts -/

/-- What stands one step below a value: under a key of a map, or at an index of a list. -/
inductive Part : Value → Segment → Value → Prop where
  | entry {entries : List (String × Value)} {key : String} {part : Value}
      (member : (key, part) ∈ entries) : Part (.map entries) (.field key) part
  | element {elements : List Value} {index : Nat} {part : Value}
      (held : elements[index]? = some part) : Part (.seq elements) (.index index) part

variable {value part target : Value} {segment : Segment} {path : Path}

theorem Part.isScalar_eq_false (within : value.Part segment part) : value.isScalar = false := by
  cases within with
  | entry member => rfl
  | element held => rfl

theorem Part.mem_members (within : value.Part segment part) : part ∈ value.members := by
  cases within with
  | entry member => exact List.mem_map_of_mem member
  | element held => exact List.mem_of_getElem? held

/-! ## Following a path -/

/-- The value that a path leads to: keys through entries of maps, indices through elements of
lists. -/
inductive Reaches : Value → Path → Value → Prop where
  | here (value : Value) : Reaches value [] value
  | beneath {value part target : Value} {segment : Segment} {path : Path}
      (first : value.Part segment part) (rest : part.Reaches path target) :
      Reaches value (segment :: path) target

theorem Reaches.append {route : Path} (first : value.Reaches path part)
    (onwards : part.Reaches route target) : value.Reaches (path ++ route) target := by
  induction first with
  | here value => exact onwards
  | beneath first rest inductionHypothesis => exact .beneath first (inductionHypothesis onwards)

theorem Reaches.snoc (reaches : value.Reaches path target) (within : target.Part segment part) :
    value.Reaches (path ++ [segment]) part :=
  reaches.append (.beneath within (.here part))

/-! ## Depth of places -/

/-- A scalar leads nowhere but to itself. -/
theorem Reaches.of_isScalar (reaches : value.Reaches path target) (scalar : value.isScalar = true) :
    path = [] ∧ target = value := by
  cases reaches with
  | here => exact ⟨rfl, rfl⟩
  | beneath first _ =>
      rw [first.isScalar_eq_false] at scalar
      cases scalar

/-- What a path leads to stands no deeper than the levels of containers allow: a container within
them, a scalar at most one below. -/
theorem Reaches.length_le (reaches : value.Reaches path target) :
    path.length ≤ value.levels + if target.isScalar then 1 else 0 := by
  induction reaches with
  | here value => exact Nat.zero_le _
  | @beneath value part target segment path first rest inductionHypothesis =>
      rw [List.length_cons]
      by_cases scalar : part.isScalar
      · obtain ⟨rfl, rfl⟩ := rest.of_isScalar scalar
        simp [scalar]
      · have level := levels_of_member first.mem_members (by simpa using scalar)
        omega

end ParamSchema.Value
