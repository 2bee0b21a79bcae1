import ParamSchema.CommandLine.Arguments
import ParamSchema.Config.Files
import ParamSchema.Registry.Files

/-!
Contract: running a command.

Owns:
- the errors of commands and their codes;
- loading settings and schemas, reading the input, and validating it or listing the schemas;
- the response line, the log and the exit status.

Does not own: files and streams, whose answers are given, the line and column of a JSON error, which
its text leaves out (`Json.Fault`), and writing the output (`Main`).

A command writes at most one response, as a line on standard output. It writes none when it fails
before there is anything to respond to.
-/

namespace ParamSchema.CommandLine

/-! ## Errors -/

inductive ErrorCode where
  | config
  | io
  | schema
  | rejected

def ErrorCode.text : ErrorCode → String
  | config => "PARAMS_CLI_CONFIG_ERROR"
  | io => "PARAMS_CLI_IO_ERROR"
  | schema => "PARAMS_CLI_SCHEMA_ERROR"
  | rejected => "PARAMS_CLI_REJECTED"

structure CommandError where
  code : ErrorCode
  message : String

namespace CommandError

/-- Code and message in one text. -/
def display (error : CommandError) : String :=
  error.code.text ++ ": " ++ error.message

/-- The error of a registry as one of a command. A violation rejects the input. -/
def ofRegistry (error : RegistryError) : CommandError :=
  match error with
  | .validation _ => ⟨.rejected, error.message⟩
  | _ => ⟨.schema, error.message⟩

end CommandError

/-! ## Responses -/

/-- A response as a line. -/
def responseLine (members : List (String × Json)) : String :=
  (Json.object members).render ++ "\n"

/-- The response to success. -/
def successLine (data : Json) : String :=
  responseLine [("data", data), ("status", .string "ok")]

/-- The response to failure, with a place if the failure has one. -/
def failureLine (code : String) (path : Option String) (message : String) : String :=
  let place := match path with
    | none => []
    | some path => [("path", Json.string path)]
  responseLine
    ([("code", .string code), ("message", .string message)] ++ place ++
      [("status", .string "error")])

/-- What a command leads to: the text on standard output, the records it logs, and the result. -/
structure Outcome where
  stdout : String
  records : List Record
  result : Except CommandError Unit

/-- An outcome without a response. -/
def Outcome.failed (records : List Record) (error : CommandError) : Outcome :=
  ⟨"", records, .error error⟩

/-! ## Inputs -/

/-- What a command reads: the answers of the file system, and standard input as a whole. -/
structure Sources where
  files : Files
  stdin : Except FileFault String

/-- Whether a path has no part but a hyphen, which stands for standard input. Empty parts and points
behind it are no parts. -/
def isStdin (path : String) : Bool :=
  match path.splitOn "/" with
  | "-" :: rest => rest.all fun part => part == "" || part == "."
  | _ => false

def inputText (sources : Sources) (path : String) : Except CommandError String :=
  if isStdin path then
    match sources.stdin with
    | .ok text => .ok text
    | .error fault => .error ⟨.io, fault.message⟩
  else
    match sources.files.readText path with
    | .ok text => .ok text
    | .error fault => .error ⟨.io, "Failed to read '" ++ path ++ "': " ++ fault.message⟩

/-- The JSON tree of an input, which must not be blank. -/
def readInput (sources : Sources) (path : String) : Except CommandError Json := do
  let text ← inputText sources path
  if Text.isBlank text then throw ⟨.io, "Empty input"⟩
  match Json.parse text with
  | .ok tree => return tree
  | .error error => throw ⟨.io, "JSON error: " ++ error.message⟩

/-! ## Schemas -/

def singleSchema (files : Files) (path : String) : Except CommandError Schema :=
  match readDocument files path with
  | .error error => .error (.ofRegistry error)
  | .ok document =>
      match document.toSchema with
      | .ok schema => .ok schema
      | .error error => .error ⟨.schema, path ++ ": " ++ error.message⟩

/-- The schema of a name and an action among the files of a directory, and the records of loading
them. -/
def registeredSchema (files : Files) (directory name action : String) :
    Except CommandError Schema × List Record :=
  let loaded := ({} : Registry).loadDirectory files directory
  let schema := match loaded.result with
    | .error error => .error (.ofRegistry error)
    | .ok _ =>
        match loaded.registry.get? name action with
        | some schema => .ok schema
        | none => .error (.ofRegistry (.unknownSchema name action))
  (schema, loaded.records)

/-- The schema that the options of a command name. -/
def chosenSchema (files : Files) (schema schemas name : Option String) (action : String) :
    Except CommandError Schema × List Record :=
  match schema, schemas, name with
  | some path, _, _ => (singleSchema files path, [])
  | none, some directory, some name => registeredSchema files directory name action
  | _, _, _ => (.error ⟨.schema, "No schema source given"⟩, [])

/-! ## Commands -/

def validateInput (config : EngineConfig) (schema : Schema) (sources : Sources) (path : String) :
    Outcome :=
  match readInput sources path with
  | .error error => .failed [] error
  | .ok tree =>
      let verdict := schema.validate config (Value.ofJson tree)
      match verdict with
      | .ok output => ⟨successLine output.toJson, [verdict.record], .ok ()⟩
      | .error error =>
          ⟨failureLine error.code (some error.path.render) error.message, [verdict.record],
            .error ⟨.rejected, error.display⟩⟩

def pairJson (pair : String × String) : Json :=
  .object [("action", .string pair.2), ("name", .string pair.1)]

/-- Loads the definition files of a directory and lists what they register. -/
def listSchemas (files : Files) (directory : String) : Outcome :=
  let loaded := ({} : Registry).loadDirectory files directory
  match loaded.result with
  | .error error =>
      let failure := CommandError.ofRegistry error
      ⟨failureLine failure.code.text none failure.message, loaded.records, .error failure⟩
  | .ok _ =>
      let pairs := Json.array (loaded.registry.keys.map pairJson)
      ⟨successLine (.object [("schemas", pairs)]), loaded.records, .ok ()⟩

def Command.run (config : EngineConfig) (sources : Sources) : Command → Outcome
  | .validate schema schemas name action input =>
      let (chosen, records) := chosenSchema sources.files schema schemas name action
      match chosen with
      | .error error => .failed records error
      | .ok schema =>
          let outcome := validateInput config schema sources input
          { outcome with records := records ++ outcome.records }
  | .check schemas => listSchemas sources.files schemas

/-- The settings of an invocation, the defaults if no file is named. -/
def loadConfig (files : Files) (path : Option String) : Except CommandError EngineConfig :=
  match path with
  | none => .ok {}
  | some path =>
      match EngineConfig.load files path with
      | .ok config => .ok config
      | .error error => .error ⟨.config, error.message⟩

def configRecord (config : EngineConfig) : Record :=
  ⟨.info, .configLoaded,
    [("max_depth", Nat.repr config.maxDepth), ("log_level", config.logLevel)]⟩

/-- What the process shows: both streams and the error, if there is one. -/
structure Report where
  stdout : String
  log : String
  error : Option CommandError

/-- The exit status of a command that was run. -/
def Report.exitStatus (report : Report) : Nat :=
  if report.error.isSome then 1 else 0

private def errorOf {α : Type} : Except CommandError α → Option CommandError
  | .ok _ => none
  | .error error => some error

/-- Runs an invocation. Nothing is logged before the settings say what is. -/
def Invocation.run (invocation : Invocation) (sources : Sources) : Report :=
  match loadConfig sources.files invocation.config with
  | .error error => ⟨"", "", some error⟩
  | .ok config =>
      match config.severity with
      | .error error => ⟨"", "", some ⟨.config, error.message⟩⟩
      | .ok minimum =>
          let outcome := invocation.command.run config sources
          ⟨outcome.stdout, logText minimum (configRecord config :: outcome.records),
            errorOf outcome.result⟩

end ParamSchema.CommandLine
