import ParamSchema.Proofs.Json.Trees
import ParamSchema.Proofs.Value.Json
import ParamSchema.Proofs.Value.Places

/-!
Contract: what is kept and what is lost between values and JSON trees.

Owns:
- the places of a JSON tree, and that conversion keeps places;
- values whose numbers are all finite: exactly these come back from their trees as they are;
- trees with a float for every integer that a value cannot hold, which is what comes back from the
  value of a tree; exactly the trees without such integers come back as they are.

Does not own: the text of a tree.
-/

namespace ParamSchema

/-! ## Places of trees -/

namespace Json

/-- What stands one step below a tree: under a key of an object, or at an index of an array. -/
inductive Part : Json → Segment → Json → Prop where
  | member {members : List (String × Json)} {key : String} {part : Json}
      (held : (key, part) ∈ members) : Part (.object members) (.field key) part
  | element {elements : List Json} {index : Nat} {part : Json}
      (held : elements[index]? = some part) : Part (.array elements) (.index index) part

/-- The tree that a path leads to. -/
inductive Reaches : Json → Path → Json → Prop where
  | here (tree : Json) : Reaches tree [] tree
  | beneath {tree part target : Json} {segment : Segment} {path : Path}
      (first : tree.Part segment part) (rest : part.Reaches path target) :
      Reaches tree (segment :: path) target

end Json

namespace Value

variable {tree : Json} {value part : Value} {segment : Segment} {path : Path}

/-- The parts of a value that comes from a tree come from the parts of the tree. -/
theorem part_of_ofJson (within : (ofJson tree).Part segment part) :
    ∃ below, tree.Part segment below ∧ ofJson below = part := by
  cases tree with
  | object members =>
      rw [ofJson, ofMembers_eq_map] at within
      cases within with
      | entry member =>
          obtain ⟨⟨key, below⟩, held, same⟩ := List.mem_map.mp member
          cases same
          exact ⟨below, .member held, rfl⟩
  | array elements =>
      rw [ofJson, ofElements_eq_map] at within
      cases within with
      | element held =>
          rw [List.getElem?_map, Option.map_eq_some_iff] at held
          obtain ⟨below, isElement, rfl⟩ := held
          exact ⟨below, .element isElement, rfl⟩
  | number source =>
      rw [ofJson] at within
      unfold ofNumber at within
      split at within
      · split at within <;> cases within
      · cases within
  | null | boolean | string => cases within

theorem reaches_of_ofJson (reaches : (ofJson tree).Reaches path part) :
    ∃ below, tree.Reaches path below ∧ ofJson below = part := by
  generalize same : ofJson tree = value at reaches
  induction reaches generalizing tree with
  | here value => exact ⟨tree, .here tree, same⟩
  | beneath first rest inductionHypothesis =>
      rw [← same] at first
      obtain ⟨below, isPart, read⟩ := part_of_ofJson first
      obtain ⟨target, inner, readTarget⟩ := inductionHypothesis read
      exact ⟨target, .beneath isPart inner, readTarget⟩

/-- The parts of the tree of a value are the trees of its parts. -/
theorem part_of_toJson (within : value.toJson.Part segment tree) :
    ∃ part, value.Part segment part ∧ part.toJson = tree := by
  cases value with
  | map entries =>
      rw [toJson, entriesToJson_eq_map] at within
      cases within with
      | member held =>
          obtain ⟨⟨key, part⟩, member, same⟩ := List.mem_map.mp held
          cases same
          exact ⟨part, .entry member, rfl⟩
  | seq elements =>
      rw [toJson, elementsToJson_eq_map] at within
      cases within with
      | element held =>
          rw [List.getElem?_map, Option.map_eq_some_iff] at held
          obtain ⟨part, isElement, rfl⟩ := held
          exact ⟨part, .element isElement, rfl⟩
  | float number =>
      rw [toJson] at within
      unfold Json.ofFloat at within
      split at within <;> cases within
  | nil | boolean | integer | text => cases within

theorem reaches_of_toJson (reaches : value.toJson.Reaches path tree) :
    ∃ part, value.Reaches path part ∧ part.toJson = tree := by
  generalize same : value.toJson = source at reaches
  induction reaches generalizing value with
  | here source => exact ⟨value, .here value, same⟩
  | beneath first rest inductionHypothesis =>
      rw [← same] at first
      obtain ⟨part, isPart, written⟩ := part_of_toJson first
      obtain ⟨target, inner, writtenTarget⟩ := inductionHypothesis written
      exact ⟨target, .beneath isPart inner, writtenTarget⟩

/-! ## Finite values -/

/-- Every number of a value is finite. -/
def AllFinite (value : Value) : Prop :=
  ∀ path number, value.Reaches path (.float number) → number.isFinite = true

theorem allFinite_ofJson (tree : Json) : (ofJson tree).AllFinite := by
  intro path number reaches
  obtain ⟨below, -, read⟩ := reaches_of_ofJson reaches
  exact isFinite_of_ofJson read

theorem AllFinite.of_part (finite : value.AllFinite) (within : value.Part segment part) :
    part.AllFinite :=
  fun path number reaches => finite (segment :: path) number (.beneath within reaches)

mutual

/-- A value whose numbers are all finite has a tree that it is read back from. -/
theorem expressible_eq_self : ∀ value : Value, value.AllFinite → value.expressible = value
  | .nil, _ | .boolean _, _ | .integer _, _ | .text _, _ => by simp only [expressible]
  | .float number, finite => by
      rw [expressible, if_pos (finite [] number (.here _))]
  | .seq elements, finite => by
      have parts : ∀ element ∈ elements, element.AllFinite := by
        intro element member
        obtain ⟨index, held⟩ := List.mem_iff_getElem?.mp member
        exact finite.of_part (.element held)
      rw [expressible, expressibleElements_eq_self elements parts]
  | .map entries, finite => by
      have parts : ∀ entry ∈ entries, entry.2.AllFinite :=
        fun entry member => finite.of_part (.entry member)
      rw [expressible, expressibleEntries_eq_self entries parts]

theorem expressibleElements_eq_self : ∀ elements : List Value,
    (∀ element ∈ elements, element.AllFinite) → expressibleElements elements = elements
  | [], _ => by rw [expressibleElements]
  | element :: rest, finite => by
      rw [expressibleElements, expressible_eq_self element (finite element List.mem_cons_self),
        expressibleElements_eq_self rest fun other member =>
          finite other (List.mem_cons_of_mem _ member)]

theorem expressibleEntries_eq_self : ∀ entries : List (String × Value),
    (∀ entry ∈ entries, entry.2.AllFinite) → expressibleEntries entries = entries
  | [], _ => by rw [expressibleEntries]
  | (key, value) :: rest, finite => by
      rw [expressibleEntries, expressible_eq_self value (finite (key, value) List.mem_cons_self),
        expressibleEntries_eq_self rest fun other member =>
          finite other (List.mem_cons_of_mem _ member)]

end

theorem AllFinite.ofJson_toJson (finite : value.AllFinite) : ofJson value.toJson = value := by
  rw [Value.ofJson_toJson, expressible_eq_self value finite]

/-- A null in the tree of a value without infinite numbers stands for nil. -/
theorem AllFinite.null_reached (finite : value.AllFinite)
    (reaches : value.toJson.Reaches path .null) : value.Reaches path .nil := by
  obtain ⟨part, inner, written⟩ := reaches_of_toJson reaches
  cases part with
  | nil => exact inner
  | float number =>
      rw [toJson_float_of_isFinite (finite path number inner)] at written
      cases written
  | boolean | integer | text | seq | map =>
      rw [toJson] at written
      cases written

end Value

/-! ## Integers that a value holds -/

namespace Json

/-- No integer of a tree is above the largest that a value holds. -/
def FitsSigned (tree : Json) : Prop :=
  ∀ path value atLeast below, tree.Reaches path (.number (.integer value atLeast below)) →
    value ≤ Int64.maxValue.toInt

/-- The integers of trees are rounded to finite floats. -/
theorem isFinite_ofInt_of_bounds {value : Int} (atLeast : -0x8000000000000000 ≤ value)
    (below : value < 0x10000000000000000) : (Binary64.ofInt value).isFinite = true :=
  Binary64.isFinite_ofInt (by omega)

/-- An integer that a value cannot hold becomes the float that it is rounded to. -/
def Number.rounded : Number → Number
  | .integer value atLeast below =>
      if value < 0x8000000000000000 then .integer value atLeast below
      else .float (Binary64.ofInt value) (isFinite_ofInt_of_bounds atLeast below)
  | .float value finite => .float value finite

mutual

/-- A tree with a float in place of every integer that a value cannot hold. -/
def rounded : Json → Json
  | .number value => .number value.rounded
  | .array elements => .array (roundedElements elements)
  | .object members => .object (roundedMembers members)
  | tree => tree

def roundedElements : List Json → List Json
  | [] => []
  | element :: rest => element.rounded :: roundedElements rest

def roundedMembers : List (String × Json) → List (String × Json)
  | [] => []
  | (key, value) :: rest => (key, value.rounded) :: roundedMembers rest

end

theorem roundedElements_eq_map (elements : List Json) :
    roundedElements elements = elements.map rounded := by
  induction elements with
  | nil => rfl
  | cons element rest inductionHypothesis =>
      rw [roundedElements, inductionHypothesis, List.map_cons]

theorem roundedMembers_eq_map (members : List (String × Json)) :
    roundedMembers members = members.map fun member => (member.1, member.2.rounded) := by
  induction members with
  | nil => rfl
  | cons member rest inductionHypothesis =>
      rw [roundedMembers, inductionHypothesis, List.map_cons]

variable {tree part : Json}

theorem exists_part_of_mem_parts (isPart : part ∈ tree.parts) :
    ∃ segment, tree.Part segment part := by
  cases tree with
  | array elements =>
      obtain ⟨index, held⟩ := List.mem_iff_getElem?.mp isPart
      exact ⟨_, .element held⟩
  | object members =>
      obtain ⟨⟨key, value⟩, held, rfl⟩ := List.mem_map.mp isPart
      exact ⟨_, .member held⟩
  | null | boolean | number | string => cases isPart

theorem FitsSigned.of_mem_parts (fits : tree.FitsSigned) (isPart : part ∈ tree.parts) :
    part.FitsSigned := by
  obtain ⟨segment, within⟩ := exists_part_of_mem_parts isPart
  intro path value atLeast below reaches
  exact fits (segment :: path) value atLeast below (.beneath within reaches)

/-- Where a value can hold all integers, there is nothing to round. -/
theorem FitsSigned.rounded_eq_self (fits : tree.FitsSigned) : tree.rounded = tree := by
  induction tree using parts_induction with
  | step tree inductionHypothesis =>
      have parts : ∀ part ∈ tree.parts, part.rounded = part :=
        fun part isPart => inductionHypothesis part isPart (fits.of_mem_parts isPart)
      cases tree with
      | null | boolean | string => simp only [rounded]
      | number source =>
          cases source with
          | integer value atLeast below =>
              have largest : Int64.maxValue.toInt = 0x7fffffffffffffff := rfl
              have inRange := fits [] value atLeast below (.here _)
              rw [rounded, Number.rounded, if_pos (by omega)]
          | float value finite => rw [rounded, Number.rounded]
      | array elements =>
          have same : elements.map rounded = elements.map id := List.map_congr_left parts
          rw [rounded, roundedElements_eq_map, same, List.map_id]
      | object members =>
          have same :
              (members.map fun member => (member.1, member.2.rounded)) = members.map id := by
            apply List.map_congr_left
            intro member held
            rw [parts member.2 (List.mem_map_of_mem held), id]
          rw [rounded, roundedMembers_eq_map, same, List.map_id]

end Json

namespace Value

theorem toJson_ofNumber (number : Json.Number) :
    (ofNumber number).toJson = .number number.rounded := by
  cases number with
  | integer value atLeast below =>
      unfold ofNumber Json.Number.rounded
      dsimp only
      by_cases inRange : value < 0x8000000000000000
      · have held : (Int64.ofInt value).toInt = value :=
          Int64.toInt_ofInt_of_le (by omega) (by omega)
        rw [if_pos inRange, if_pos inRange, toJson]
        simp only [Json.Number.ofInt64, held]
      · have finite := Json.isFinite_ofInt_of_bounds atLeast below
        rw [if_neg inRange, if_neg inRange, toJson_float_of_isFinite finite]
  | float value finite => exact toJson_float_of_isFinite finite

/-- A tree comes back from its value as it is, but for the integers that a value cannot hold. -/
theorem toJson_ofJson (tree : Json) : (ofJson tree).toJson = tree.rounded := by
  induction tree using Json.parts_induction with
  | step tree inductionHypothesis =>
      cases tree with
      | null | boolean | string => simp only [ofJson, toJson, Json.rounded]
      | number source => rw [ofJson, toJson_ofNumber, Json.rounded]
      | array elements =>
          rw [ofJson, toJson, Json.rounded, ofElements_eq_map, elementsToJson_eq_map,
            Json.roundedElements_eq_map, List.map_map]
          congr 1
          exact List.map_congr_left inductionHypothesis
      | object members =>
          rw [ofJson, toJson, Json.rounded, ofMembers_eq_map, entriesToJson_eq_map,
            Json.roundedMembers_eq_map, List.map_map]
          congr 1
          apply List.map_congr_left
          intro member held
          simp only [Function.comp, inductionHypothesis member.2 (List.mem_map_of_mem held)]

/-- The integers of the tree of a value are those of the value. -/
theorem fitsSigned_toJson (value : Value) : value.toJson.FitsSigned := by
  intro path number atLeast below reaches
  obtain ⟨part, -, written⟩ := reaches_of_toJson reaches
  cases part with
  | integer held =>
      rw [toJson] at written
      cases written
      exact held.toInt_le
  | float held =>
      rw [toJson, Json.ofFloat] at written
      split at written <;> cases written
  | nil | boolean | text | seq | map =>
      rw [toJson] at written
      cases written

/-! ## What comes back -/

/-- A value comes back from its tree with nil for every number that is not finite, and otherwise as
it is. A tree comes back from its value with a float for every integer that a value cannot hold, and
otherwise as it is. -/
theorem conversions_inverse :
    (∀ value : Value, ofJson value.toJson = value.expressible ∧
      (ofJson value.toJson = value ↔ value.AllFinite)) ∧
    ∀ tree : Json, (ofJson tree).toJson = tree.rounded ∧
      ((ofJson tree).toJson = tree ↔ tree.FitsSigned) := by
  constructor
  · intro value
    refine ⟨ofJson_toJson value, ?same, AllFinite.ofJson_toJson⟩
    case same =>
      intro same
      rw [← same]
      exact allFinite_ofJson value.toJson
  · intro tree
    refine ⟨toJson_ofJson tree, ?same, ?fits⟩
    case same =>
      intro same
      rw [← same]
      exact fitsSigned_toJson (ofJson tree)
    case fits =>
      intro fits
      rw [toJson_ofJson, fits.rounded_eq_self]

/-- Three as an integer, three as a float, and a word that is not a number. -/
example : ofJson (toJson (.map [("a", .seq [.integer 3, .float ⟨0x4008000000000000⟩,
      .float .notANumber])])) =
    .map [("a", .seq [.integer 3, .float ⟨0x4008000000000000⟩, .nil])] := by
  cbv

end Value

end ParamSchema
