import ParamSchema.Config.Decode
import ParamSchema.Files.Basic

/-!
Contract: settings in a file.

Owns:
- loading valid settings, and the ways in which that fails.

Does not own: the file system, whose answers are given, and the line and column of a JSON error,
which its text leaves out (`Json.Fault`).
-/

namespace ParamSchema

/-- Why settings cannot be loaded. -/
inductive ConfigError where
  | unreadable (path : String) (fault : FileFault)
  | malformed (error : Json.ReadError)
  | setting (error : SettingError)

def ConfigError.message : ConfigError → String
  | unreadable path fault => "failed to read config '" ++ path ++ "': " ++ fault.message
  | malformed error => "invalid config JSON: " ++ error.message
  | setting error => error.message

/-- The settings in a file, if they are valid. -/
def EngineConfig.load (files : Files) (path : String) : Except ConfigError EngineConfig :=
  match files.readText path with
  | .error fault => .error (.unreadable path fault)
  | .ok text =>
      match EngineConfig.parse text with
      | .error error => .error (.malformed error)
      | .ok config =>
          match config.validate with
          | .error error => .error (.setting error)
          | .ok _ => .ok config

end ParamSchema
