import ParamSchema.Text.Unprintable

/-!
Contract: texts quoted for people.

Owns:
- the quoted form of a text in which characters that would not show are written as escapes.

Does not own: the literals of JSON (`Json.quote`).
-/

namespace ParamSchema.Text

/-- A character that does not show is written as its code point in hexadecimal. -/
def codePoint (character : Char) : List Char :=
  ['\\', 'u', '\x7b'] ++ Nat.toDigits 16 character.toNat ++ ['\x7d']

/-- How a character is shown between double quotes. -/
def shown (character : Char) : List Char :=
  if character = '\x00' then ['\\', '0']
  else if character = '\t' then ['\\', 't']
  else if character = '\r' then ['\\', 'r']
  else if character = '\n' then ['\\', 'n']
  else if character = '"' then ['\\', '"']
  else if character = '\\' then ['\\', '\\']
  else if isUnprintable character then codePoint character
  else [character]

/-- A text between double quotes. -/
def escaped (text : String) : String :=
  "\"" ++ String.ofList (text.toList.flatMap shown) ++ "\""

end ParamSchema.Text
