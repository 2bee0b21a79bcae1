import ParamSchema.Config.Basic
import ParamSchema.Validation.Walk

/-!
Contract: validating inputs under the settings of the engine.

Owns:
- the call on an input, with the configured limit on depth;
- the record that a call leaves in the log.

Does not own: the walk itself (`Validation.Walk`).
-/

namespace ParamSchema

/-- Reduces an input to an output by a schema, or gives the first violation. -/
def Schema.validate (schema : Schema) (config : EngineConfig) (input : Value) : Verdict Value :=
  schema.reduce config.depthLimit input

/-- The event of a violation; an input that is too deep has its own. -/
def ValidationError.event (error : ValidationError) : Event :=
  match error.failure with
  | .tooDeep => .depthLimitExceeded
  | _ => .validationFailed

/-- The record of a call. -/
def Verdict.record : Verdict Value → Record
  | .ok _ => ⟨.trace, .validationPassed, []⟩
  | .error error =>
      ⟨.trace, error.event,
        [("code", error.code), ("path", error.path.render), ("message", error.message)]⟩

end ParamSchema
