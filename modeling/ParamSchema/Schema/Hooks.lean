import ParamSchema.Schema.Basic
import ParamSchema.Value.Json

/-!
Contract: ready-made hooks.

Owns:
- transforms for texts, numbers and containers;
- checks on integers, texts and pairs of bounds.

Does not own: when a hook is applied (`Validation.Walk`).

A transform returns a value of any other shape unchanged, unless it says otherwise.
-/

namespace ParamSchema

/-! ## Transforms -/

namespace Transform

/-- A text without the white space at its ends. -/
def trim : Value → Value
  | .text value => .text (Text.trim value)
  | value => value

/-- A text with its ASCII letters in upper case. -/
def upper : Value → Value
  | .text value => .text value.toUpper
  | value => value

/-- A number with its sign flipped; the least integer stays as it is. -/
def negate : Value → Value
  | .integer value => .integer (-value)
  | .float value => .float value.negate
  | value => value

/-- Any value as the only element of a list. -/
def wrap (value : Value) : Value :=
  .seq [value]

/-- Nil in place of any value. -/
def nil (_ : Value) : Value :=
  .nil

/-- Any value as its text. -/
def display (value : Value) : Value :=
  .text value.display

/-- The number of characters of a text, or of members of a container. -/
def length : Value → Value
  | .text value => .integer (Int64.ofNat value.length)
  | .seq elements => .integer (Int64.ofNat elements.length)
  | .map entries => .integer (Int64.ofNat entries.length)
  | value => value

end Transform

/-! ## Checks -/

namespace Check

def positive : Check :=
  .predicate fun
    | .integer value => decide (0 < value)
    | _ => false

def nonblank : Check :=
  .predicate fun value => !value.isBlank

def never : Check :=
  .predicate fun _ => false

def even : Check :=
  .verify fun
    | .integer value => if value % 2 = 0 then .ok () else .error "must be even"
    | _ => .error "must be even"

/-- Rejects everything with its own text. -/
def echo : Check :=
  .verify fun value => .error value.display

/-- Rejects everything with an empty message. -/
def empty : Check :=
  .verify fun _ => .error ""

/-- Accepts maps whose integers `lo` and `hi` are in order. -/
def bounds : Check :=
  .verify fun value =>
    match (value.get? "lo").bind Value.integer?, (value.get? "hi").bind Value.integer? with
    | some low, some high => if low ≤ high then .ok () else .error "lo must not exceed hi"
    | _, _ => .error "lo must not exceed hi"

end Check

end ParamSchema
