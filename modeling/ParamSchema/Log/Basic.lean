import ParamSchema.Json.Basic

/-!
Contract: structured log lines.

Owns:
- severities in order, and events;
- records, their lines, and the text of the records that reach a minimum severity.

Does not own: where the text goes.

A line is one JSON object: the event, the severity, then the fields of the record in order of key.
-/

namespace ParamSchema

/-- How much a record matters. -/
inductive Severity where
  | trace
  | info
  | warn
  | error
  | fatal
deriving DecidableEq

namespace Severity

/-- All severities, the least first. -/
def all : List Severity :=
  [.trace, .info, .warn, .error, .fatal]

/-- The place of a severity in that order. -/
def rank : Severity → Nat
  | trace => 0
  | info => 1
  | warn => 2
  | error => 3
  | fatal => 4

def name : Severity → String
  | trace => "TRACE"
  | info => "INFO"
  | warn => "WARN"
  | error => "ERROR"
  | fatal => "FATAL"

/-- The severity of a name of any case. -/
def parse? (name : String) : Option Severity :=
  match name.toLower with
  | "trace" => some .trace
  | "info" => some .info
  | "warn" => some .warn
  | "error" => some .error
  | "fatal" => some .fatal
  | _ => none

def reaches (severity minimum : Severity) : Bool :=
  minimum.rank ≤ severity.rank

end Severity

/-- What a record tells of. -/
inductive Event where
  | configLoaded
  | schemaRegistered
  | schemasLoaded
  | schemaRejected
  | validationPassed
  | validationFailed
  | depthLimitExceeded
deriving DecidableEq

namespace Event

def all : List Event :=
  [.configLoaded, .schemaRegistered, .schemasLoaded, .schemaRejected, .validationPassed,
    .validationFailed, .depthLimitExceeded]

def name : Event → String
  | configLoaded => "CONFIG_LOADED"
  | schemaRegistered => "SCHEMA_REGISTERED"
  | schemasLoaded => "SCHEMAS_LOADED"
  | schemaRejected => "SCHEMA_REJECTED"
  | validationPassed => "VALIDATION_PASSED"
  | validationFailed => "VALIDATION_FAILED"
  | depthLimitExceeded => "DEPTH_LIMIT_EXCEEDED"

end Event

/-- One event with its fields. -/
structure Record where
  severity : Severity
  event : Event
  fields : List (String × String)

namespace Record

/-- The fields of a record in order of key; fields of one key keep their order. -/
def sortedFields (record : Record) : List (String × String) :=
  record.fields.mergeSort fun left right => decide (left.1 ≤ right.1)

/-- The line of a record, with its newline. -/
def line (record : Record) : String :=
  let members := ("event", record.event.name) :: ("severity", record.severity.name) ::
    record.sortedFields
  Json.braced (members.map fun member => Json.memberText member.1 (Json.quote member.2)) ++ "\n"

end Record

/-- The lines of the records that reach a minimum severity. -/
def logText (minimum : Severity) (records : List Record) : String :=
  String.join ((records.filter fun record => record.severity.reaches minimum).map Record.line)

end ParamSchema
