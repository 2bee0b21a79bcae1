/-!
Contract: what is wrong with a text that is not JSON.

Owns:
- the faults, each with its message and with whether it is the early end of the text;
- the two faults found at one place, by whether the value there is kept or only passed over.

Does not own: faults of content, such as a missing field (`Json.Decode`), and where in the text a
fault stands. A message names the fault alone; the words ` at line L column C` that would follow it
are left out, here and in every text that quotes the message.
-/

namespace ParamSchema.Json

/-- A fault in the text of a JSON document. -/
inductive Fault where
  | endInValue
  | endInList
  | endInObject
  | endInString
  | expectedColon
  | expectedListCommaOrEnd
  | expectedObjectCommaOrEnd
  | expectedIdent
  | expectedValue
  | invalidEscape
  | invalidNumber
  | numberOutOfRange
  | controlCharacter
  | keyNotString
  | loneSurrogate
  | unfinishedSurrogatePair
  | trailingComma
  | trailingCharacters
  | tooManyLevels

namespace Fault

def message : Fault → String
  | endInValue => "EOF while parsing a value"
  | endInList => "EOF while parsing a list"
  | endInObject => "EOF while parsing an object"
  | endInString => "EOF while parsing a string"
  | expectedColon => "expected `:`"
  | expectedListCommaOrEnd => "expected `,` or `]`"
  | expectedObjectCommaOrEnd => "expected `,` or `\x7d`"
  | expectedIdent => "expected ident"
  | expectedValue => "expected value"
  | invalidEscape => "invalid escape"
  | invalidNumber => "invalid number"
  | numberOutOfRange => "number out of range"
  | controlCharacter => "control character (\\u0000-\\u001F) found while parsing a string"
  | keyNotString => "key must be a string"
  | loneSurrogate => "lone leading surrogate in hex escape"
  | unfinishedSurrogatePair => "unexpected end of hex escape"
  | trailingComma => "trailing comma"
  | trailingCharacters => "trailing characters"
  | tooManyLevels => "recursion limit exceeded"

/-- Whether the text ends where more of it is needed. -/
def isEnd : Fault → Bool
  | endInValue | endInList | endInObject | endInString => true
  | _ => false

end Fault

/-- The fault at which reading stops. A value that is only passed over is read by a laxer rule, so
the same place can have another fault then. -/
structure Stop where
  kept : Fault
  passed : Fault

/-- A stop with one fault for both rules. -/
def Stop.same (fault : Fault) : Stop :=
  ⟨fault, fault⟩

end ParamSchema.Json
