/-!
Contract: places within nested data and their text.

Owns:
- steps by key or by index, and paths of such steps from a root;
- the text of a path: `a.b[1].c`, and `$` for the root.

Does not own: what stands at a place.
-/

namespace ParamSchema

/-- One step down: into an object by key or into an array by index. -/
inductive Segment where
  | field (key : String)
  | index (position : Nat)
deriving DecidableEq

/-- The steps from the root to a place, the first step first. -/
abbrev Path := List Segment

namespace Segment

/-- A step by itself is shown as its key or its index. -/
def text : Segment → String
  | field key => key
  | index position => Nat.repr position

/-- A step behind others: a key follows a point, an index stands in brackets. -/
def suffix : Segment → String
  | field key => "." ++ key
  | index position => "[" ++ Nat.repr position ++ "]"

/-- A step that comes first needs no point. -/
def first : Segment → String
  | field key => key
  | index position => "[" ++ Nat.repr position ++ "]"

end Segment

/-- The steps behind the first one, each with its separator. -/
def suffixes : Path → String
  | [] => ""
  | segment :: rest => segment.suffix ++ suffixes rest

/-- The text of a path. -/
def Path.render : Path → String
  | [] => "$"
  | segment :: rest => segment.first ++ suffixes rest

end ParamSchema
