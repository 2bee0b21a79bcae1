import ParamSchema.Proofs.Binary64.Rounding
import ParamSchema.Value.Json

/-!
Contract: values as JSON trees and back.

Owns:
- the two conversions as maps over the parts of containers;
- a value with nil in place of every number that JSON cannot express;
- that the tree of a value is read back as that value;
- that the numbers of JSON trees are finite.

Does not own: the text of a tree, and trees that are read and written again
(`Proofs.Value.Interchange`).
-/

namespace ParamSchema.Value

/-! ## Part by part -/

theorem ofElements_eq_map (elements : List Json) :
    ofElements elements = elements.map ofJson := by
  induction elements with
  | nil => rfl
  | cons element rest inductionHypothesis => rw [ofElements, inductionHypothesis, List.map_cons]

theorem ofMembers_eq_map (members : List (String × Json)) :
    ofMembers members = members.map fun member => (member.1, ofJson member.2) := by
  induction members with
  | nil => rfl
  | cons member rest inductionHypothesis => rw [ofMembers, inductionHypothesis, List.map_cons]

theorem elementsToJson_eq_map (elements : List Value) :
    elementsToJson elements = elements.map toJson := by
  induction elements with
  | nil => rfl
  | cons element rest inductionHypothesis =>
      rw [elementsToJson, inductionHypothesis, List.map_cons]

theorem entriesToJson_eq_map (entries : List (String × Value)) :
    entriesToJson entries = entries.map fun entry => (entry.1, entry.2.toJson) := by
  induction entries with
  | nil => rfl
  | cons entry rest inductionHypothesis =>
      rw [entriesToJson, inductionHypothesis, List.map_cons]

/-! ## Numbers -/

theorem ofNumber_ofInt64 (value : Int64) :
    ofNumber (Json.Number.ofInt64 value) = .integer value := by
  have below : value.toInt < 0x8000000000000000 := value.toInt_lt
  unfold Json.Number.ofInt64 ofNumber
  dsimp only
  rw [if_pos below, Int64.ofInt_toInt]

theorem toJson_float_of_isFinite {number : Binary64} (finite : number.isFinite = true) :
    toJson (.float number) = .number (.float number finite) := by
  rw [toJson, Json.ofFloat, dif_pos finite]

theorem toJson_float_of_not_isFinite {number : Binary64} (infinite : number.isFinite = false) :
    toJson (.float number) = .null := by
  rw [toJson, Json.ofFloat, dif_neg (by simp [infinite])]

/-- Only finite numbers come from JSON trees. -/
theorem isFinite_of_ofJson {tree : Json} {number : Binary64} (read : ofJson tree = .float number) :
    number.isFinite = true := by
  cases tree with
  | number source =>
      rw [ofJson] at read
      cases source with
      | integer value atLeast below =>
          unfold ofNumber at read
          dsimp only at read
          split at read
          · cases read
          · cases read
            exact Binary64.isFinite_ofInt (by omega)
      | float value finite =>
          cases read
          exact finite
  | null | boolean | string | array | object => cases read

/-! ## Back from JSON -/

mutual

/-- A value with nil in place of every number that is not finite. -/
def expressible : Value → Value
  | .float number => if number.isFinite then .float number else .nil
  | .seq elements => .seq (expressibleElements elements)
  | .map entries => .map (expressibleEntries entries)
  | value => value

def expressibleElements : List Value → List Value
  | [] => []
  | element :: rest => element.expressible :: expressibleElements rest

def expressibleEntries : List (String × Value) → List (String × Value)
  | [] => []
  | (key, value) :: rest => (key, value.expressible) :: expressibleEntries rest

end

mutual

/-- A value comes back from its tree as it is, but for the numbers that JSON cannot express. -/
theorem ofJson_toJson : ∀ value : Value, ofJson value.toJson = value.expressible
  | .nil | .boolean _ | .text _ => by simp only [toJson, ofJson, expressible]
  | .integer value => by
      rw [toJson, ofJson, ofNumber_ofInt64, expressible]
      · exact fun _ isFloat => by cases isFloat
      · exact fun _ isSeq => by cases isSeq
      · exact fun _ isMap => by cases isMap
  | .float number => by
      rw [expressible]
      by_cases finite : number.isFinite
      · rw [if_pos finite, toJson_float_of_isFinite finite, ofJson, ofNumber]
      · rw [if_neg finite, toJson_float_of_not_isFinite (by simpa using finite), ofJson]
  | .seq elements => by
      rw [toJson, ofJson, expressible, ofElements_elementsToJson elements]
  | .map entries => by
      rw [toJson, ofJson, expressible, ofMembers_entriesToJson entries]

theorem ofElements_elementsToJson : ∀ elements : List Value,
    ofElements (elementsToJson elements) = expressibleElements elements
  | [] => by rw [elementsToJson, ofElements, expressibleElements]
  | element :: rest => by
      rw [elementsToJson, ofElements, expressibleElements, ofJson_toJson element,
        ofElements_elementsToJson rest]

theorem ofMembers_entriesToJson : ∀ entries : List (String × Value),
    ofMembers (entriesToJson entries) = expressibleEntries entries
  | [] => by rw [entriesToJson, ofMembers, expressibleEntries]
  | (key, value) :: rest => by
      rw [entriesToJson, ofMembers, expressibleEntries, ofJson_toJson value,
        ofMembers_entriesToJson rest]

end

end ParamSchema.Value
