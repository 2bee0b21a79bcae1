import ParamSchema.Json.Decode
import ParamSchema.TypeName.Basic

/-!
Contract: reading the name of a type from JSON text.

Owns:
- a type written as a string, or as an object whose one member has the name as key and null as
  value.

Does not own: aliases, which only documents use (`TypeName.lookup`).

Such an object is not read through a draft: it has one member exactly, so the brackets that end it
too early or too late have faults of their own.
-/

namespace ParamSchema.TypeName

open Json (Token ReadError)

/-- A name as a type. -/
private def ofText (name : String) : Except ReadError TypeName :=
  match ofName? name with
  | some type => .ok type
  | none => .error (.unknownVariant name (all.map TypeName.name))

/-- The words for what is wanted as the value of the member. -/
private def wantedUnit : String := "unit"

/-- Null as the value of the member. -/
private def readUnit : List Token → Except ReadError (List Token)
  | [] => .error (.fault .endInValue)
  | .scalar .null :: rest => .ok rest
  | .scalar value :: _ => (Json.Draft.scalar value).mismatch wantedUnit
  | .string reading :: _ => (Json.Draft.string reading).mismatch wantedUnit
  | .openList :: _ => .error (.invalidType .sequence wantedUnit)
  | .openObject :: _ => .error (.invalidType .map wantedUnit)
  | .broken stop :: _ | .brokenString stop :: _ => .error (.fault stop.kept)
  | _ => .error (.fault .expectedValue)

/-- A colon. -/
private def readColon : List Token → Except ReadError (List Token)
  | [] => .error (.fault .endInObject)
  | .colon :: rest => .ok rest
  | _ => .error (.fault .expectedColon)

/-- The bracket that ends the object. -/
private def readClose : List Token → Except ReadError (List Token)
  | [] => .error (.fault .endInObject)
  | .closeObject :: rest => .ok rest
  | _ => .error (.fault .expectedValue)

/-- The name of a type as a key; an object without a member names no type. -/
private def readKey : List Token → Except ReadError (TypeName × List Token)
  | [] => .error (.fault .endInObject)
  | .string reading :: rest => do
      let name ← ReadError.lift reading
      let type ← ofText name
      return (type, rest)
  | .brokenString stop :: _ => .error (.fault stop.kept)
  | .closeObject :: _ => .error (.fault .expectedValue)
  | _ => .error (.fault .keyNotString)

/-- A type and the tokens behind it. -/
private def readType : List Token → Except ReadError (TypeName × List Token)
  | [] => .error (.fault .endInValue)
  | .string reading :: rest => do
      let name ← ReadError.lift reading
      let type ← ofText name
      return (type, rest)
  | .brokenString stop :: _ => .error (.fault stop.kept)
  | .openObject :: rest => do
      let (type, behindKey) ← readKey rest
      let behindColon ← readColon behindKey
      let behindUnit ← readUnit behindColon
      let behind ← readClose behindUnit
      return (type, behind)
  | _ => .error (.fault .expectedValue)

/-- The type that a JSON text names. -/
def parse (text : String) : Except ReadError TypeName := do
  let (type, rest) ← readType (Token.ofText text.toList)
  if rest.isEmpty then return type else throw (.fault .trailingCharacters)

end ParamSchema.TypeName
