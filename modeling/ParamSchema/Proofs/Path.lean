import Mathlib.Data.List.TakeWhile
import ParamSchema.Path

/-!
Contract: places that are told from the texts of paths.

Owns:
- the paths whose keys show where they end;
- reading the steps back from the text of such a path;
- that no two of these paths have one text.

Does not own: paths with an empty key, or a key in which a point or an opening bracket stands.
-/

namespace ParamSchema

/-! ## Plain paths -/

/-- A key that shows where it ends. -/
def Segment.Plain : Segment → Prop
  | field key => key ≠ "" ∧ '.' ∉ key.toList ∧ '[' ∉ key.toList
  | index _ => True

instance : DecidablePred Segment.Plain
  | .field key => inferInstanceAs (Decidable (key ≠ "" ∧ '.' ∉ key.toList ∧ '[' ∉ key.toList))
  | .index _ => inferInstanceAs (Decidable True)

/-- A path of plain keys that is not taken for the root. -/
structure Path.Plain (path : Path) : Prop where
  steps : ∀ segment ∈ path, segment.Plain
  notRoot : path ≠ [.field "$"]

/-- Neither a point nor an opening bracket. -/
def inPlainKey (character : Char) : Bool :=
  character != '.' && character != '['

theorem Segment.Plain.inPlainKey {key : String} (plain : (field key).Plain) :
    ∀ character ∈ key.toList, inPlainKey character = true := by
  obtain ⟨-, noPoint, noBracket⟩ := plain
  intro character member
  simp only [ParamSchema.inPlainKey, Bool.and_eq_true, bne_iff_ne]
  exact ⟨ne_of_mem_of_not_mem member noPoint, ne_of_mem_of_not_mem member noBracket⟩

/-- What stands behind a key does not belong to it. -/
theorem takeWhile_inPlainKey_suffixes (path : Path) :
    (suffixes path).toList.takeWhile inPlainKey = [] := by
  cases path with
  | nil => rfl
  | cons segment rest => cases segment <;> simp [suffixes, Segment.suffix, inPlainKey]

theorem dropWhile_inPlainKey_suffixes (path : Path) :
    (suffixes path).toList.dropWhile inPlainKey = (suffixes path).toList := by
  have split := List.takeWhile_append_dropWhile (p := inPlainKey) (l := (suffixes path).toList)
  rwa [takeWhile_inPlainKey_suffixes, List.nil_append] at split

/-! ## Reading -/

/-- The steps of a text in which each stands behind its separator. -/
def readSteps : List Char → Option Path
  | [] => some []
  | '.' :: text =>
      (readSteps (text.dropWhile inPlainKey)).map
        (.field (String.ofList (text.takeWhile inPlainKey)) :: ·)
  | '[' :: text =>
      (readSteps (text.dropWhile Char.isDigit).tail).map
        (.index (Nat.ofDigitChars 10 (text.takeWhile Char.isDigit) 0) :: ·)
  | _ => none
termination_by text => text.length
decreasing_by
  · exact Nat.lt_succ_of_le (List.length_dropWhile_le _ _)
  · rw [List.length_tail]
    exact Nat.lt_succ_of_le ((Nat.sub_le _ _).trans (List.length_dropWhile_le _ _))

/-- The path of a text. A key that comes first has no point in front of it. -/
def Path.read? (text : String) : Option Path :=
  if text = "$" then some []
  else if text.toList.head? = some '[' then readSteps text.toList
  else readSteps ('.' :: text.toList)

theorem readSteps_field {key : String} (plain : (Segment.field key).Plain) (rest : Path) :
    readSteps ((Segment.field key).suffix.toList ++ (suffixes rest).toList) =
      (readSteps (suffixes rest).toList).map (.field key :: ·) := by
  have shape : (Segment.field key).suffix.toList ++ (suffixes rest).toList =
      '.' :: (key.toList ++ (suffixes rest).toList) := by
    simp [Segment.suffix]
  rw [shape, readSteps, List.takeWhile_append_of_pos plain.inPlainKey,
    List.dropWhile_append_of_pos plain.inPlainKey, takeWhile_inPlainKey_suffixes,
    dropWhile_inPlainKey_suffixes, List.append_nil, String.ofList_toList]

theorem readSteps_index (position : Nat) (text : List Char) :
    readSteps ((Segment.index position).suffix.toList ++ text) =
      (readSteps text).map (.index position :: ·) := by
  have shape : (Segment.index position).suffix.toList ++ text =
      '[' :: (Nat.toDigits 10 position ++ ']' :: text) := by
    simp [Segment.suffix]
  have digits : ∀ character ∈ Nat.toDigits 10 position, character.isDigit = true :=
    fun character member => Nat.isDigit_of_mem_toDigits (by decide) (by decide) member
  rw [shape, readSteps, List.takeWhile_append_of_pos digits, List.dropWhile_append_of_pos digits]
  simp

theorem readSteps_suffixes {path : Path} (plain : ∀ segment ∈ path, segment.Plain) :
    readSteps (suffixes path).toList = some path := by
  induction path with
  | nil => simp [suffixes, readSteps]
  | cons segment rest inductionHypothesis =>
      obtain ⟨first, others⟩ := List.forall_mem_cons.mp plain
      rw [suffixes, String.toList_append]
      cases segment with
      | field key => rw [readSteps_field first, inductionHypothesis others, Option.map_some]
      | index position => rw [readSteps_index, inductionHypothesis others, Option.map_some]

/-! ## Texts of plain paths -/

namespace Path

theorem head?_render_index (position : Nat) (rest : Path) :
    (render (.index position :: rest)).toList.head? = some '[' := by
  simp [render, Segment.first]

theorem head?_render_field {key : String} (plain : (Segment.field key).Plain) (rest : Path) :
    (render (.field key :: rest)).toList.head? ≠ some '[' := by
  obtain ⟨first, others, shape⟩ : ∃ first others, key.toList = first :: others :=
    List.exists_cons_of_ne_nil (by simpa using plain.1)
  have notBracket : first ≠ '[' := by
    rintro rfl
    exact plain.2.2 (shape ▸ List.mem_cons_self)
  simpa [render, Segment.first, shape] using notBracket

/-- A path that starts with a key is not shown like the root, unless that key is all there is. -/
theorem render_field_ne_root {key : String} {rest : Path} (plain : Plain (.field key :: rest)) :
    render (.field key :: rest) ≠ "$" := by
  intro same
  have split : key.toList ++ (suffixes rest).toList = ['$'] := by
    rw [← String.toList_append]
    exact congrArg String.toList same
  rcases List.append_eq_singleton_iff.mp split with ⟨isEmpty, -⟩ | ⟨isRoot, nothing⟩
  · exact (plain.steps _ List.mem_cons_self).1 (String.toList_eq_nil_iff.mp isEmpty)
  · have keyIsRoot : key = "$" := String.toList_inj.mp isRoot
    cases rest with
    | nil => exact plain.notRoot (by rw [keyIsRoot])
    | cons segment rest => cases segment <;> simp [suffixes, Segment.suffix] at nothing

/-- The steps of a plain path are read back from its text. -/
theorem read?_render {path : Path} (plain : path.Plain) : read? path.render = some path := by
  cases path with
  | nil => rfl
  | cons segment rest =>
      have read := readSteps_suffixes plain.steps
      cases segment with
      | index position =>
          have bracket := head?_render_index position rest
          have notRoot : render (.index position :: rest) ≠ "$" := by
            intro same
            rw [same] at bracket
            cases bracket
          rw [read?, if_neg notRoot, if_pos bracket]
          exact read
      | field key =>
          have noBracket := head?_render_field (plain.steps _ List.mem_cons_self) rest
          have shape : '.' :: (render (.field key :: rest)).toList =
              (suffixes (.field key :: rest)).toList := by
            simp [render, suffixes, Segment.first, Segment.suffix]
          rw [read?, if_neg (render_field_ne_root plain), if_neg noBracket, shape, read]

/-- Plain paths with one text are one path, and it is read back from the text. -/
theorem location_of_render {path other : Path} (plain : path.Plain) (otherPlain : other.Plain) :
    (path.render = other.render ↔ path = other) ∧ read? path.render = some path := by
  refine ⟨⟨fun same => ?_, congrArg render⟩, read?_render plain⟩
  have read := read?_render plain
  rw [same, read?_render otherPlain] at read
  exact (Option.some.inj read).symm

/-- A key may look like the end of an index, and the sign of the root may stand behind a step. -/
theorem lookalikes_location :
    (render [.index 1, .field "0]", .field "$"] = render [.index 10, .field "]", .field "$"] ↔
        ([.index 1, .field "0]", .field "$"] : Path) = [.index 10, .field "]", .field "$"]) ∧
      read? (render [.index 1, .field "0]", .field "$"]) =
        some [.index 1, .field "0]", .field "$"] :=
  location_of_render ⟨by decide, by decide⟩ ⟨by decide, by decide⟩

-- Keys that are not plain are taken for other steps.
example : render [.field "a.b"] = render [.field "a", .field "b"] := by decide

example : render [.field "", .index 0] = render [.index 0] := by decide

end Path

end ParamSchema
