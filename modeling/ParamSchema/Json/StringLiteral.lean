import ParamSchema.Json.Fault

/-!
Contract: string literals of JSON text.

Owns:
- splitting the text behind an opening quote into pieces up to the closing quote;
- combining the pieces into a text, in which UTF-16 surrogates have to come in pairs.

Does not own: writing literals (`Json.quote`).

The split does not look at surrogates, so it finds the end of a literal also where no text can be
made of it; a literal that is only passed over needs no more than that.
-/

namespace ParamSchema.Json

inductive Piece where
  | plain (character : Char)
  /-- A `\u` escape. -/
  | unit (code : Nat)

inductive Ending where
  | closed (rest : List Char)
  | endOfText
  | badEscape
  | badUnit
  | control

def Ending.fault : Ending → Fault
  | closed _ | endOfText => .endInString
  | badEscape | badUnit => .invalidEscape
  | control => .controlCharacter

/-! ## Pieces -/

/-- The value of a hexadecimal digit of either case. -/
def hexValue? (character : Char) : Option Nat :=
  if character.isDigit then some (character.toNat - 48)
  else if 'a' ≤ character ∧ character ≤ 'f' then some (character.toNat - 87)
  else if 'A' ≤ character ∧ character ≤ 'F' then some (character.toNat - 55)
  else none

def unitValue? (first second third fourth : Char) : Option Nat := do
  let first ← hexValue? first
  let second ← hexValue? second
  let third ← hexValue? third
  let fourth ← hexValue? fourth
  return ((first * 16 + second) * 16 + third) * 16 + fourth

/-- The character of an escape of one letter. -/
def escaped? : Char → Option Char
  | '"' => some '"'
  | '\\' => some '\\'
  | '/' => some '/'
  | 'b' => some '\x08'
  | 'f' => some '\x0c'
  | 'n' => some '\n'
  | 'r' => some '\r'
  | 't' => some '\t'
  | _ => none

/-- Whether fewer than four bytes of UTF-8 are left. -/
def fewerThanFourBytes (text : List Char) : Bool :=
  (text.take 4).foldl (fun bytes character => bytes + character.utf8Size) 0 < 4

/-- A literal's split with one more piece in front. -/
def withPiece (piece : Piece) (split : List Piece × Ending) : List Piece × Ending :=
  (piece :: split.1, split.2)

/-- The pieces of a string literal, from the text behind its opening quote. -/
def pieces : List Char → List Piece × Ending
  | [] => ([], .endOfText)
  | '"' :: rest => ([], .closed rest)
  | ['\\'] => ([], .endOfText)
  | '\\' :: letter :: rest =>
      if letter = 'u' then
        if fewerThanFourBytes rest then ([], .endOfText)
        else
          match rest with
          | first :: second :: third :: fourth :: behind =>
              match unitValue? first second third fourth with
              | some code => withPiece (.unit code) (pieces behind)
              | none => ([], .badUnit)
          | _ => ([], .badUnit)
      else
        match escaped? letter with
        | some character => withPiece (.plain character) (pieces rest)
        | none => ([], .badEscape)
  | character :: rest =>
      if character.toNat < 0x20 then ([], .control)
      else withPiece (.plain character) (pieces rest)

/-! ## Surrogates -/

def isLeading (code : Nat) : Bool :=
  0xD800 ≤ code && code ≤ 0xDBFF

def isTrailing (code : Nat) : Bool :=
  0xDC00 ≤ code && code ≤ 0xDFFF

def pairCharacter (leading trailing : Nat) : Char :=
  Char.ofNat (0x10000 + (leading - 0xD800) * 0x400 + (trailing - 0xDC00))

/-- The fault of a leading surrogate behind which the literal ends. A text that stops within the
second unit is at fault for that. -/
def leadingFault : Ending → Fault
  | .endOfText => .endInString
  | .badUnit => .invalidEscape
  | _ => .unfinishedSurrogatePair

/-- The characters that the pieces of a literal stand for, or the first fault. -/
def combine (ending : Ending) : List Piece → Except Fault (List Char)
  | [] =>
      match ending with
      | .closed _ => .ok []
      | _ => .error ending.fault
  | .plain character :: rest => (combine ending rest).map (character :: ·)
  | .unit code :: rest =>
      if isTrailing code then .error .loneSurrogate
      else if isLeading code then
        match rest with
        | .unit second :: behind =>
            if isTrailing second then
              (combine ending behind).map (pairCharacter code second :: ·)
            else .error .loneSurrogate
        | .plain _ :: _ => .error .unfinishedSurrogatePair
        | [] => .error (leadingFault ending)
      else (combine ending rest).map (Char.ofNat code :: ·)

/-- The text of a literal from its pieces. -/
def pieceText (split : List Piece × Ending) : Except Fault String :=
  (combine split.2 split.1).map String.ofList

end ParamSchema.Json
