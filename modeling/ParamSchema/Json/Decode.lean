import ParamSchema.Json.Draft
import ParamSchema.Text.Escaped

/-!
Contract: reading drafts as data.

Owns:
- the errors of reading, among them faults of content, and their messages;
- reading a draft as a JSON tree, a text, a truth value or a count;
- the limit on the levels of containers that are read into.

Does not own: the structures that documents consist of (`Document.Decode`, `Config.Decode`), and the
line and column of an error, which no message names (`Json.Fault`).

Every reader goes from left to right and gives the first error. A level is used up when a container
is entered, so a reader that refuses containers refuses a deep one for being a container.
-/

namespace ParamSchema.Json

/-- What a draft offers where something else is expected. -/
inductive Found where
  | null
  | boolean (value : Bool)
  | integer (value : Int)
  | float (value : Binary64)
  | string (value : String)
  | sequence
  | map

def Found.text : Found → String
  | null => "null"
  | boolean value => "boolean `" ++ (if value then "true" else "false") ++ "`"
  | integer value => "integer `" ++ Text.integer value ++ "`"
  | float value => "floating point `" ++ Binary64.Layout.json.text value ++ "`"
  | string value => "string " ++ Text.escaped value
  | sequence => "sequence"
  | map => "map"

inductive ReadError where
  | fault (cause : Fault)
  | missingField (name : String)
  | duplicateField (name : String)
  | unknownField (name : String) (known : List String)
  | unknownVariant (name : String) (known : List String)
  | invalidType (found : Found) (wanted : String)
  | invalidValue (found : Found) (wanted : String)
  | invalidLength (length : Nat) (wanted : String)

/-- Whether a text is wrong in form, ends early, or has the wrong content. -/
inductive Category where
  | form
  | early
  | content

namespace ReadError

private def ticked (name : String) : String :=
  "`" ++ name ++ "`"

/-- Two or more names to choose from. -/
private def oneOf : List String → String
  | [] => ""
  | [name] => ticked name
  | name :: rest => ticked name ++ ", " ++ oneOf rest

def message : ReadError → String
  | fault cause => cause.message
  | missingField name => "missing field " ++ ticked name
  | duplicateField name => "duplicate field " ++ ticked name
  | unknownField name known =>
      "unknown field " ++ ticked name ++ ", expected one of " ++ oneOf known
  | unknownVariant name known =>
      "unknown variant " ++ ticked name ++ ", expected one of " ++ oneOf known
  | invalidType found wanted => "invalid type: " ++ found.text ++ ", expected " ++ wanted
  | invalidValue found wanted => "invalid value: " ++ found.text ++ ", expected " ++ wanted
  | invalidLength length wanted =>
      "invalid length " ++ Nat.repr length ++ ", expected " ++ wanted

def category : ReadError → Category
  | fault cause => if cause.isEnd then .early else .form
  | _ => .content

/-- A reading whose only errors are faults. -/
def lift {α : Type} : Except Fault α → Except ReadError α
  | .ok value => .ok value
  | .error cause => .error (.fault cause)

/-- The end of a container: it is closed, or reading has stopped there. -/
def closed : Option Stop → Except ReadError Unit
  | none => .ok ()
  | some stop => .error (.fault stop.kept)

end ReadError

/-- The levels of containers that a text may have. -/
def levelLimit : Nat := 127

namespace Scalar

def toJson : Scalar → Except Fault Json
  | .null => .ok .null
  | .boolean value => .ok (.boolean value)
  | .number reading => reading.map .number

def found : Scalar → Except Fault Found
  | .null => .ok .null
  | .boolean value => .ok (.boolean value)
  | .number reading =>
      reading.map fun
        | .integer value _ _ => .integer value
        | .float value _ => .float value

end Scalar

namespace Draft

mutual

/-- A draft as a tree of at most so many levels. The members of an object come in order of key, of
two with one key the later counts. -/
def toJson (levels : Nat) : Draft → Except ReadError Json
  | .scalar value => ReadError.lift value.toJson
  | .string reading => ReadError.lift (reading.map .string)
  | .array elements stop =>
      match levels with
      | 0 => .error (.fault .tooManyLevels)
      | below + 1 => do
          let elements ← elementsToJson below elements
          ReadError.closed stop
          return .array elements
  | .object members stop =>
      match levels with
      | 0 => .error (.fault .tooManyLevels)
      | below + 1 => do
          let members ← membersToJson below members
          ReadError.closed stop
          return .object (Entries.ofList members)
  | .fault stop => .error (.fault stop.kept)

def elementsToJson (levels : Nat) : List Draft → Except ReadError (List Json)
  | [] => .ok []
  | element :: rest => do
      let head ← element.toJson levels
      let tail ← elementsToJson levels rest
      return head :: tail

/-- The members of an object as keys with trees, in the order written. -/
def membersToJson (levels : Nat) :
    List (Except Fault String × Draft) → Except ReadError (List (String × Json))
  | [] => .ok []
  | (key, value) :: rest => do
      let key ← ReadError.lift key
      let head ← value.toJson levels
      let tail ← membersToJson levels rest
      return (key, head) :: tail

end

/-! ## Expectations -/

/-- What a draft offers; a container is not looked into. -/
def found : Draft → Except Fault Found
  | .scalar value => value.found
  | .string reading => reading.map .string
  | .array _ _ => .ok .sequence
  | .object _ _ => .ok .map
  | .fault stop => .error stop.kept

/-- The error of a draft that is not what is wanted: its own fault, if it has one. -/
def mismatch {α : Type} (draft : Draft) (wanted : String) : Except ReadError α :=
  match draft.found with
  | .error cause => .error (.fault cause)
  | .ok found => .error (.invalidType found wanted)

def expectString : Draft → Except ReadError String
  | .string reading => ReadError.lift reading
  | other => other.mismatch "a string"

def expectBoolean : Draft → Except ReadError Bool
  | .scalar (.boolean value) => .ok value
  | other => other.mismatch "a boolean"

/-- A draft as a count of machine size. -/
def expectCount : Draft → Except ReadError Nat
  | .scalar (.number (.ok (.integer value _ _))) =>
      if value < 0 then .error (.invalidValue (.integer value) "usize") else .ok value.toNat
  | other => other.mismatch "usize"

def isNull : Draft → Bool
  | .scalar .null => true
  | _ => false

/-- A draft as a text, null being none. -/
def expectOptionalString (draft : Draft) : Except ReadError (Option String) :=
  if draft.isNull then .ok none else draft.expectString.map some

def expectTrees (levels : Nat) : Draft → Except ReadError (List Json)
  | .array elements stop =>
      match levels with
      | 0 => .error (.fault .tooManyLevels)
      | below + 1 => do
          let elements ← elementsToJson below elements
          ReadError.closed stop
          return elements
  | other => other.mismatch "a sequence"

/-- A draft that is only passed over. -/
def pass : Draft → Except ReadError Unit
  | .fault stop | .array _ (some stop) | .object _ (some stop) => .error (.fault stop.passed)
  | _ => .ok ()

/-- The end of a list in which all that is wanted has been read: more of it is at fault, and a cut
is so for what follows the last element. -/
def endOfFields (rest : List Draft) (stop : Option Stop) : Except ReadError Unit :=
  if rest.isEmpty then
    match stop with
    | none => .ok ()
    | some stop =>
        match stop.kept with
        | .endInList | .trailingComma => .error (.fault stop.kept)
        | _ => .error (.fault .trailingCharacters)
  else .error (.fault .trailingCharacters)

end Draft

/-- A text read as a whole: nothing but blanks may stand behind what is read. -/
def Document.read {α : Type} (document : Document) (reader : Draft → Except ReadError α) :
    Except ReadError α := do
  let value ← reader document.value
  match document.tail with
  | none => return value
  | some cause => throw (.fault cause)

/-- A text as a JSON tree. -/
def parse (text : String) : Except ReadError Json :=
  (Document.ofText text).read (Draft.toJson levelLimit)

end ParamSchema.Json
