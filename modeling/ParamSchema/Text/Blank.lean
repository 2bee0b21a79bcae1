/-!
Contract: white space at the ends of texts.

Owns:
- the characters of the Unicode property `White_Space`;
- trimming a text at both ends, and the texts that nothing is left of.

Does not own: the blanks between the tokens of a JSON text, which are four characters only.
-/

namespace ParamSchema.Text

/-- A character is white space exactly when Unicode gives it the property `White_Space`. -/
def isWhiteSpace (character : Char) : Bool :=
  let code := character.toNat
  (0x09 ≤ code && code ≤ 0x0D) || code == 0x20 || code == 0x85 || code == 0xA0 ||
    code == 0x1680 || (0x2000 ≤ code && code ≤ 0x200A) || code == 0x2028 || code == 0x2029 ||
    code == 0x202F || code == 0x205F || code == 0x3000

/-- A text is trimmed by dropping its white space from both ends. -/
def trim (text : String) : String :=
  let trailing := text.toList.dropWhile isWhiteSpace
  String.ofList (trailing.reverse.dropWhile isWhiteSpace).reverse

/-- A text is blank when it has no character beside white space. -/
def isBlank (text : String) : Bool :=
  text.toList.all isWhiteSpace

end ParamSchema.Text
