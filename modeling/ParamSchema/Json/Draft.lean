import ParamSchema.Json.Token

/-!
Contract: the tree that a sequence of tokens spells, as far as it goes.

Owns:
- drafts, trees that keep the order and the repetitions of members and that carry the place where
  reading stopped;
- the walk over the tokens that builds a draft with a stack of open containers.

Does not own: what a draft is read as (`Json.Decode`).

A draft holds every fault of the text at its place, so a reader of drafts that goes from left to
right finds the first of them, among its own, without looking at the text again.
-/

namespace ParamSchema.Json

/-- What a text spells up to the point where reading stops. A container that is cut off carries
the stop behind its last part, and so does every container around it. -/
inductive Draft where
  | scalar (value : Scalar)
  | string (reading : Except Fault String)
  | array (elements : List Draft) (stop : Option Stop)
  | object (members : List (Except Fault String × Draft)) (stop : Option Stop)
  | fault (stop : Stop)

/-- A text as a draft and, when the draft is complete, the fault of what follows it. -/
structure Document where
  value : Draft
  tail : Option Fault

namespace Draft

/-- An open container that waits for a value; its parts so far are listed backwards. -/
inductive Frame where
  | list (before : List Draft)
  | object (before : List (Except Fault String × Draft)) (key : Except Fault String)

/-- What the walk waits for. The parts of the innermost container are listed backwards. -/
inductive Mode where
  | value
  | firstElement
  | element (before : List Draft)
  | afterElement (before : List Draft)
  | firstKey
  | key (before : List (Except Fault String × Draft))
  | colon (before : List (Except Fault String × Draft)) (key : Except Fault String)
  | afterMember (before : List (Except Fault String × Draft))
  | done (draft : Draft)

/-! ## Ends -/

/-- The whole draft when reading stops at a value: the containers around it are cut off. -/
def abandon (stop : Stop) : List Frame → Draft → Draft
  | [], value => value
  | .list before :: rest, value =>
      abandon stop rest (.array (before.reverse ++ [value]) (some stop))
  | .object before key :: rest, value =>
      abandon stop rest (.object (before.reverse ++ [(key, value)]) (some stop))

/-- The draft when a value is missing. -/
def missing (stop : Stop) (frames : List Frame) : Draft :=
  abandon stop frames (.fault stop)

/-- The draft when a list stops behind its elements. -/
def cutList (stop : Stop) (before : List Draft) (frames : List Frame) : Draft :=
  abandon stop frames (.array before.reverse (some stop))

/-- The draft when an object stops behind its members. -/
def cutObject (stop : Stop) (before : List (Except Fault String × Draft))
    (frames : List Frame) : Draft :=
  abandon stop frames (.object before.reverse (some stop))

/-- The draft when the text ends in a mode. -/
def atEnd (frames : List Frame) : Mode → Draft
  | .value => missing (.same .endInValue) frames
  | .firstElement => cutList (.same .endInList) [] frames
  | .element before => missing (.same .endInValue) (.list before :: frames)
  | .afterElement before => cutList (.same .endInList) before frames
  | .firstKey => cutObject (.same .endInObject) [] frames
  | .key before => cutObject ⟨.endInValue, .endInObject⟩ before frames
  | .colon before key => missing (.same .endInObject) (.object before key :: frames)
  | .afterMember before => cutObject (.same .endInObject) before frames
  | .done draft => draft

/-! ## Steps -/

/-- A walk goes on in a mode with the containers around it, or has stopped with a draft. -/
abbrev Step := Except Draft (Mode × List Frame)

/-- A complete value goes into the innermost open container. -/
def complete (value : Draft) : List Frame → Mode × List Frame
  | [] => (.done value, [])
  | .list before :: rest => (.afterElement (value :: before), rest)
  | .object before key :: rest => (.afterMember ((key, value) :: before), rest)

/-- A token where a value is due. -/
def startValue (frames : List Frame) : Token → Step
  | .scalar value => .ok (complete (.scalar value) frames)
  | .string reading => .ok (complete (.string reading) frames)
  | .openList => .ok (.firstElement, frames)
  | .openObject => .ok (.firstKey, frames)
  | .broken stop | .brokenString stop => .error (missing stop frames)
  | .comma | .colon | .closeList | .closeObject =>
      .error (missing (.same .expectedValue) frames)

/-- A token where a key is due; the faults say what stops there and what a closing bracket does. -/
def startKey (before : List (Except Fault String × Draft)) (frames : List Frame) : Token → Step
  | .string reading => .ok (.colon before reading, frames)
  | .brokenString stop => .error (cutObject stop before frames)
  | _ => .error (cutObject (.same .keyNotString) before frames)

def step (frames : List Frame) : Mode → Token → Step
  | .value, token => startValue frames token
  | .firstElement, .closeList => .ok (complete (.array [] none) frames)
  | .firstElement, token => startValue (.list [] :: frames) token
  | .element before, .closeList =>
      .error (cutList ⟨.trailingComma, .expectedValue⟩ before frames)
  | .element before, token => startValue (.list before :: frames) token
  | .afterElement before, .comma => .ok (.element before, frames)
  | .afterElement before, .closeList => .ok (complete (.array before.reverse none) frames)
  | .afterElement before, _ => .error (cutList (.same .expectedListCommaOrEnd) before frames)
  | .firstKey, .closeObject => .ok (complete (.object [] none) frames)
  | .firstKey, token => startKey [] frames token
  | .key before, .closeObject =>
      .error (cutObject ⟨.trailingComma, .keyNotString⟩ before frames)
  | .key before, token => startKey before frames token
  | .colon before key, .colon => .ok (.value, .object before key :: frames)
  | .colon before key, _ => .error (missing (.same .expectedColon) (.object before key :: frames))
  | .afterMember before, .comma => .ok (.key before, frames)
  | .afterMember before, .closeObject => .ok (complete (.object before.reverse none) frames)
  | .afterMember before, _ => .error (cutObject (.same .expectedObjectCommaOrEnd) before frames)
  | .done draft, _ => .ok (.done draft, frames)

/-- The walk over the tokens from a mode; a token behind a complete draft is at fault. -/
def walk (mode : Mode) (frames : List Frame) : List Token → Document
  | [] => ⟨atEnd frames mode, none⟩
  | token :: rest =>
      match mode with
      | .done draft => ⟨draft, some .trailingCharacters⟩
      | _ =>
          match step frames mode token with
          | .error draft => ⟨draft, none⟩
          | .ok (next, around) => walk next around rest

end Draft

def Document.ofTokens (tokens : List Token) : Document :=
  Draft.walk .value [] tokens

def Document.ofText (text : String) : Document :=
  .ofTokens (Token.ofText text.toList)

end ParamSchema.Json
