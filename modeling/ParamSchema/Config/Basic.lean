import ParamSchema.Json.Basic
import ParamSchema.Log.Basic

/-!
Contract: the settings of the engine.

Owns:
- the settings, their defaults and their bounds;
- the limit on depth that a setting stands for;
- their JSON form.

Does not own: reading settings (`Config.Decode`) and files of them (`Config.Files`).
-/

namespace ParamSchema

/-- The settings of the engine. -/
structure EngineConfig where
  /-- The deepest level of an input. -/
  maxDepth : Nat := 64
  /-- The name of the least severity that is logged. -/
  logLevel : String := "warn"

inductive SettingError where
  | maxDepth (value : Nat)
  | logLevel (value : String)

/-- The largest limit on depth. -/
def maxDepthLimit : Nat := 128

def SettingError.message : SettingError → String
  | maxDepth value =>
      "max_depth must be between 1 and " ++ Nat.repr maxDepthLimit ++ " (got " ++
        Nat.repr value ++ ")"
  | logLevel value =>
      "invalid log_level: '" ++ value ++ "'. Must be one of trace, info, warn, error, fatal."

namespace EngineConfig

/-- The severity that a setting names. -/
def severity (config : EngineConfig) : Except SettingError Severity :=
  match Severity.parse? config.logLevel with
  | some severity => .ok severity
  | none => .error (.logLevel config.logLevel)

/-- Settings are valid when the depth is in bounds and the log level is the name of a severity. -/
def validate (config : EngineConfig) : Except SettingError Unit :=
  if config.maxDepth = 0 ∨ maxDepthLimit < config.maxDepth then .error (.maxDepth config.maxDepth)
  else config.severity.map fun _ => ()

/-- The limit on depth in force: the setting, moved into bounds. -/
def depthLimit (config : EngineConfig) : Nat :=
  max 1 (min config.maxDepth maxDepthLimit)

def render (config : EngineConfig) : String :=
  Json.braced
    [Json.memberText "max_depth" (Nat.repr config.maxDepth),
      Json.memberText "log_level" (Json.quote config.logLevel)]

end EngineConfig

end ParamSchema
