import ParamSchema.Binary64.Basic
import ParamSchema.Entries
import ParamSchema.Text.Blank

/-!
Contract: the values that parameters take before and after validation.

Owns:
- the closed set of shapes a value can have, and when its maps are in order;
- the classes nil, scalar and blank, and looking up a key;
- equality of values, in which numbers compare as numbers.

Does not own: names of types (`TypeName`), JSON (`Value.Json`), depth (`Value.Nesting`).
-/

namespace ParamSchema

/-- An untyped parameter value. The entries of a map are ascending in every value that is read or
built by this library. -/
inductive Value where
  | nil
  | boolean (value : Bool)
  | integer (value : Int64)
  | float (value : Binary64)
  | text (value : String)
  | seq (elements : List Value)
  | map (entries : List (String × Value))

namespace Value

instance : Inhabited Value := ⟨.nil⟩

/-! ## Maps in order -/

mutual

/-- Whether the entries of every map within a value are ascending. -/
def Ordered : Value → Prop
  | .seq elements => OrderedElements elements
  | .map entries => Entries.Ascending entries ∧ OrderedEntries entries
  | _ => True

def OrderedElements : List Value → Prop
  | [] => True
  | element :: rest => element.Ordered ∧ OrderedElements rest

def OrderedEntries : List (String × Value) → Prop
  | [] => True
  | (_, value) :: rest => value.Ordered ∧ OrderedEntries rest

end

/-! ## Classes -/

/-- Only `nil` is nil. -/
def isNil : Value → Bool
  | .nil => true
  | _ => false

/-- A value is a scalar unless it is a list or a map. -/
def isScalar : Value → Bool
  | .seq _ | .map _ => false
  | _ => true

/-- Nil, texts of white space and empty containers are blank; `false` and zero are not. -/
def isBlank : Value → Bool
  | .nil => true
  | .text value => Text.isBlank value
  | .seq elements => elements.isEmpty
  | .map entries => entries.isEmpty
  | .boolean _ | .integer _ | .float _ => false

def text? : Value → Option String
  | .text value => some value
  | _ => none

def integer? : Value → Option Int64
  | .integer value => some value
  | _ => none

def elements? : Value → Option (List Value)
  | .seq elements => some elements
  | _ => none

def entries? : Value → Option (List (String × Value))
  | .map entries => some entries
  | _ => none

def get? (value : Value) (key : String) : Option Value :=
  value.entries?.bind (·.lookup key)

/-! ## Equality -/

mutual

/-- Values are equal when they have the same shape and equal parts. An integer never equals a
float, the two zeros are equal, and a float that is not a number differs from everything. -/
def equals : Value → Value → Bool
  | .nil, .nil => true
  | .boolean left, .boolean right => left == right
  | .integer left, .integer right => left == right
  | .float left, .float right => left.numericEq right
  | .text left, .text right => left == right
  | .seq left, .seq right => equalElements left right
  | .map left, .map right => equalEntries left right
  | _, _ => false

def equalElements : List Value → List Value → Bool
  | [], [] => true
  | left :: lefts, right :: rights => left.equals right && equalElements lefts rights
  | _, _ => false

/-- Entries are equal when keys and values are so, entry by entry. -/
def equalEntries : List (String × Value) → List (String × Value) → Bool
  | [], [] => true
  | (leftKey, left) :: lefts, (rightKey, right) :: rights =>
      leftKey == rightKey && left.equals right && equalEntries lefts rights
  | _, _ => false

end

end Value

end ParamSchema
