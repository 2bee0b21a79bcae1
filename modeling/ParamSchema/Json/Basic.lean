import ParamSchema.Binary64.Layout
import ParamSchema.Entries
import ParamSchema.Text.Integer

/-!
Contract: trees of JSON data and their compact text.

Owns:
- numbers that are integers of 64 bits, with or without sign, or finite binary64 numbers;
- JSON trees, whose objects list their members in the order they are written;
- equality of trees;
- string literals and the compact text of a tree.

Does not own: reading text (`Json.Token`, `Json.Draft`).
-/

namespace ParamSchema

/-- A JSON number is an integer that fits into 64 bits, signed or unsigned, or a finite float. An
integral float is not an integer. -/
inductive Json.Number where
  | integer (value : Int) (atLeast : -0x8000000000000000 ≤ value)
      (below : value < 0x10000000000000000)
  | float (value : Binary64) (finite : value.isFinite = true)

inductive Json where
  | null
  | boolean (value : Bool)
  | number (value : Json.Number)
  | string (value : String)
  | array (elements : List Json)
  | object (members : List (String × Json))

namespace Json

instance : Inhabited Json := ⟨.null⟩

/-- Numbers are equal within one kind only, floats as numbers. -/
def Number.equals : Number → Number → Bool
  | .integer left _ _, .integer right _ _ => left == right
  | .float left _, .float right _ => left.numericEq right
  | _, _ => false

/-- The text of a number; a float always shows a point or an exponent. -/
def Number.text : Number → String
  | .integer value _ _ => Text.integer value
  | .float value _ => Binary64.Layout.json.text value

mutual

/-- Trees are equal when they have the same shape, the same keys in the same order and equal
parts. -/
def equals : Json → Json → Bool
  | .null, .null => true
  | .boolean left, .boolean right => left == right
  | .number left, .number right => left.equals right
  | .string left, .string right => left == right
  | .array left, .array right => equalElements left right
  | .object left, .object right => equalMembers left right
  | _, _ => false

def equalElements : List Json → List Json → Bool
  | [], [] => true
  | left :: lefts, right :: rights => left.equals right && equalElements lefts rights
  | _, _ => false

/-- Members are equal when keys and values are so, member by member. -/
def equalMembers : List (String × Json) → List (String × Json) → Bool
  | [], [] => true
  | (leftKey, left) :: lefts, (rightKey, right) :: rights =>
      leftKey == rightKey && left.equals right && equalMembers lefts rights
  | _, _ => false

end

/-! ## Text -/

/-- A hexadecimal digit in lower case. -/
def hexDigit (value : Nat) : Char :=
  Nat.digitChar (value % 16)

/-- How a character stands in a string literal: quotes, backslashes and control characters are
escaped, all else stands for itself. -/
def escape (character : Char) : List Char :=
  if character = '"' then ['\\', '"']
  else if character = '\\' then ['\\', '\\']
  else if character = '\x08' then ['\\', 'b']
  else if character = '\x0c' then ['\\', 'f']
  else if character = '\n' then ['\\', 'n']
  else if character = '\r' then ['\\', 'r']
  else if character = '\t' then ['\\', 't']
  else if character.toNat < 0x20 then
    ['\\', 'u', '0', '0', hexDigit (character.toNat / 16), hexDigit character.toNat]
  else [character]

def quote (text : String) : String :=
  "\"" ++ String.ofList (text.toList.flatMap escape) ++ "\""

def commaSeparated : List String → String
  | [] => ""
  | [text] => text
  | text :: rest => text ++ "," ++ commaSeparated rest

def bracketed (texts : List String) : String :=
  "[" ++ commaSeparated texts ++ "]"

def braced (texts : List String) : String :=
  "\x7b" ++ commaSeparated texts ++ "\x7d"

/-- A member of an object, from its key and the text of its value. -/
def memberText (key value : String) : String :=
  quote key ++ ":" ++ value

mutual

/-- The compact text of a tree, without blanks. -/
def render : Json → String
  | .null => "null"
  | .boolean value => if value then "true" else "false"
  | .number value => value.text
  | .string value => quote value
  | .array elements => bracketed (elementTexts elements)
  | .object members => braced (memberTexts members)

def elementTexts : List Json → List String
  | [] => []
  | element :: rest => element.render :: elementTexts rest

def memberTexts : List (String × Json) → List String
  | [] => []
  | (key, value) :: rest => memberText key value.render :: memberTexts rest

end

end Json

end ParamSchema
