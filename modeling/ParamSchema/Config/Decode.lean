import ParamSchema.Config.Basic
import ParamSchema.Json.Decode

/-!
Contract: reading settings.

Owns:
- settings from drafts, as an object of named fields or as a list of the fields in order.

Does not own: the bounds on settings (`Config.Basic`).

Every field has a default. Members of an object that are no fields are passed over.
-/

namespace ParamSchema.EngineConfig

open Json (Draft Fault ReadError Stop)

/-- The words for what is wanted where settings are due. -/
def wanted : String := "struct EngineConfig"

/-- The fields of settings. -/
inductive Field where
  | maxDepth
  | logLevel
deriving DecidableEq

def Field.ofName? : String → Option Field
  | "max_depth" => some .maxDepth
  | "log_level" => some .logLevel
  | _ => none

/-- Settings with one more field read. -/
def assign (config : EngineConfig) (value : Draft) : Field → Except ReadError EngineConfig
  | .maxDepth => value.expectCount.map fun read => { config with maxDepth := read }
  | .logLevel => value.expectString.map fun read => { config with logLevel := read }

/-- The members of an object as fields, given the fields that have been seen. -/
def decodeMembers (seen : List Field) (config : EngineConfig) :
    List (Except Fault String × Draft) → Except ReadError EngineConfig
  | [] => .ok config
  | (key, value) :: rest => do
      let name ← ReadError.lift key
      match Field.ofName? name with
      | none =>
          value.pass
          decodeMembers seen config rest
      | some field =>
          if seen.contains field then throw (.duplicateField name)
          else
            let next ← config.assign value field
            decodeMembers (field :: seen) next rest

/-- The elements of a list as the fields in order. -/
def decodeFields (stop : Option Stop) (remaining : List Field) (config : EngineConfig) :
    List Draft → Except ReadError EngineConfig
  | [] => do
      if remaining.isEmpty then Draft.endOfFields [] stop else ReadError.closed stop
      return config
  | element :: rest =>
      match remaining with
      | [] => .error (.fault .trailingCharacters)
      | field :: later => do
          let next ← config.assign element field
          decodeFields stop later next rest

/-- A draft as settings. -/
def decode : Draft → Except ReadError EngineConfig
  | .object members stop => do
      let config ← decodeMembers [] {} members
      ReadError.closed stop
      return config
  | .array elements stop => decodeFields stop [.maxDepth, .logLevel] {} elements
  | other => other.mismatch wanted

/-- The settings that a JSON text spells. -/
def parse (text : String) : Except ReadError EngineConfig :=
  (Json.Document.ofText text).read decode

end ParamSchema.EngineConfig
