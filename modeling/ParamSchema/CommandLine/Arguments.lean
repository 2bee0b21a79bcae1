/-!
Contract: the arguments of the command line.

Owns:
- the two commands with their options, and what a valid command line says;
- reading arguments from left to right, and the kinds of usage errors;
- the rules between options, which are applied once all arguments have been read.

Does not own: the texts of help and usage, and what a command does (`CommandLine.Run`).

An option takes one value, behind `=` or as the next argument. A value that is an argument of its
own is only looked at when the next option or the end is reached, so an unknown argument right
behind it is found first.
-/

namespace ParamSchema.CommandLine

/-! ## What a command line says -/

/-- A command with its options. -/
inductive Command where
  | validate (schema schemas name : Option String) (action input : String)
  | check (schemas : String)

/-- A command, with settings if a file of them is named. -/
structure Invocation where
  config : Option String
  command : Command

/-- Why there is nothing to run. -/
inductive UsageError where
  | displayHelp
  | displayVersion
  /-- There is neither an option nor a command. -/
  | nothingGiven
  | missingSubcommand
  | invalidSubcommand
  | unknownArgument
  | invalidValue
  | tooManyValues
  | argumentConflict
  | missingRequiredArgument

/-- The exit status when nothing is run; asking for help or for the version is no error. -/
def UsageError.exitStatus : UsageError → Nat
  | displayHelp | displayVersion => 0
  | _ => 2

/-! ## Options -/

/-- The options that take a value. -/
inductive Flag where
  | config
  | schema
  | schemas
  | name
  | action
  | input
deriving DecidableEq

namespace Flag

/-- The word of an option, behind two hyphens. -/
def word : Flag → String
  | config => "config"
  | schema => "schema"
  | schemas => "schemas"
  | name => "name"
  | action => "action"
  | input => "input"

/-- Whether the value is a path, which must not be empty. -/
def isPath : Flag → Bool
  | name | action => false
  | _ => true

end Flag

/-- The two words that start a command. -/
inductive Subcommand where
  | validate
  | check
deriving DecidableEq

/-- Where an argument stands: before a command, or behind one. -/
inductive Level where
  | top
  | behind (subcommand : Subcommand)

namespace Level

/-- The options of a level. Settings can be named at every level. -/
def flags : Level → List Flag
  | top => [.config]
  | behind .validate => [.config, .schema, .schemas, .name, .action, .input]
  | behind .check => [.config, .schemas]

def flag? (level : Level) (word : String) : Option Flag :=
  level.flags.find? fun flag => flag.word == word

/-- The version can only be asked for before a command. -/
def knowsVersion : Level → Bool
  | top => true
  | behind _ => false

end Level

/-! ## Arguments one by one -/

/-- What an argument looks like at a level. -/
inductive Shape where
  /-- Two hyphens alone: no options follow. -/
  | escape
  | flag (flag : Flag) (attached : Option String)
  /-- Asks for help or for the version; a value attached to it is refused. -/
  | request (error : UsageError) (attached : Bool)
  | unknown
  | plain

/-- The word of a long option and the value behind its first `=`. -/
def splitAttached (text : List Char) : String × Option String :=
  let word := text.takeWhile (· != '=')
  match text.drop word.length with
  | [] => (String.ofList word, none)
  | _ :: value => (String.ofList word, some (String.ofList value))

/-- The shape of a long option, from the text behind its hyphens. -/
def Level.longShape (level : Level) (text : List Char) : Shape :=
  let (word, attached) := splitAttached text
  match level.flag? word with
  | some flag => .flag flag attached
  | none =>
      if word = "help" then .request .displayHelp attached.isSome
      else if word = "version" && level.knowsVersion then .request .displayVersion attached.isSome
      else .unknown

/-- The shape of an argument. A hyphen alone is no option. -/
def Level.shape (level : Level) (argument : String) : Shape :=
  match argument.toList with
  | ['-', '-'] => .escape
  | '-' :: '-' :: text => level.longShape text
  | '-' :: letter :: _ =>
      if letter = 'h' then .request .displayHelp false
      else if letter = 'V' && level.knowsVersion then .request .displayVersion false
      else .unknown
  | _ => .plain

/-! ## Values -/

/-- The values that have been given, and the option that is being read, with its value once that
has been met. -/
structure Reading where
  given : List (Flag × String) := []
  pending : Option (Flag × Option String) := none

namespace Reading

def value? (reading : Reading) (flag : Flag) : Option String :=
  reading.given.lookup flag

/-- Gives an option a value: no option has two, and a path is not empty. -/
def give (reading : Reading) (flag : Flag) (value : String) : Except UsageError Reading :=
  if (reading.value? flag).isSome then .error .argumentConflict
  else if flag.isPath && value.isEmpty then .error .invalidValue
  else .ok ⟨(flag, value) :: reading.given, none⟩

/-- Gives the option that is being read its value. -/
def settle (reading : Reading) : Except UsageError Reading :=
  match reading.pending with
  | none => .ok reading
  | some (_, none) => .error .invalidValue
  | some (flag, some value) => reading.give flag value

/-- Whether the next argument is the value of an option. -/
def awaits (reading : Reading) : Bool :=
  match reading.pending with
  | some (_, none) => true
  | _ => false

end Reading

def Subcommand.ofWord? : String → Option Subcommand
  | "validate" => some .validate
  | "check" => some .check
  | _ => none

/-- Help on a command, or on all of them. -/
def helpOn : List String → UsageError
  | [] => .displayHelp
  | [word] =>
      if (Subcommand.ofWord? word).isSome || word == "help" then .displayHelp
      else .invalidSubcommand
  | _ => .invalidSubcommand

/-- The error of an argument that has no place: before a command it should have been one, but
behind two hyphens not even a command can stand. -/
def Level.misplaced (level : Level) (escaped : Bool) (argument : String) : UsageError :=
  match level with
  | .behind _ => .unknownArgument
  | .top =>
      if escaped && ((Subcommand.ofWord? argument).isSome || argument == "help") then
        .unknownArgument
      else .invalidSubcommand

/-- An option at a level: what was being read is settled, and the option is given its attached
value or waits for one. -/
def Reading.meet (reading : Reading) (flag : Flag) (attached : Option String) :
    Except UsageError Reading := do
  let settled ← reading.settle
  match attached with
  | some value => settled.give flag value
  | none => return { settled with pending := some (flag, none) }

/-- A request ends the reading, unless what was being read is at fault or a value is attached. -/
def Reading.request (reading : Reading) (error : UsageError) (attached : Bool) : UsageError :=
  if attached then .tooManyValues
  else
    match reading.settle with
    | .error earlier => earlier
    | .ok _ => error

/-! ## Levels -/

/-- Reads the arguments behind a command to the end. -/
def readBehind (subcommand : Subcommand) (reading : Reading) (escaped : Bool) :
    List String → Except UsageError Reading
  | [] => reading.settle
  | argument :: rest =>
      let level := Level.behind subcommand
      if escaped then .error (level.misplaced true argument)
      else
        match level.shape argument with
        | .escape => readBehind subcommand reading true rest
        | .flag flag attached =>
            match reading.meet flag attached with
            | .error error => .error error
            | .ok next => readBehind subcommand next false rest
        | .request error attached => .error (reading.request error attached)
        | .unknown => .error .unknownArgument
        | .plain =>
            match reading.pending with
            | some (flag, none) =>
                readBehind subcommand { reading with pending := some (flag, some argument) } false
                  rest
            | _ => .error (level.misplaced false argument)

/-- The command that the values of its options make up. -/
def Subcommand.command (subcommand : Subcommand) (reading : Reading) :
    Except UsageError Command :=
  match subcommand with
  | .check => .ok (.check ((reading.value? .schemas).getD "./schemas"))
  | .validate =>
      let schema := reading.value? .schema
      let schemas := reading.value? .schemas
      let name := reading.value? .name
      if schema.isSome && schemas.isSome then .error .argumentConflict
      else if schema.isNone && schemas.isNone then .error .missingRequiredArgument
      else if schemas.isSome && name.isNone then .error .missingRequiredArgument
      else
        .ok
          (.validate schema schemas name ((reading.value? .action).getD "default")
            ((reading.value? .input).getD "-"))

/-- A command behind what was read before it. Settings named behind the command come first. -/
def invocation (before : Reading) (subcommand : Subcommand) (arguments : List String) :
    Except UsageError Invocation := do
  let behind ← readBehind subcommand {} false arguments
  let command ← subcommand.command behind
  let settled ← before.settle
  return ⟨(behind.value? .config).or (settled.value? .config), command⟩

/-- The error of a command line without a command. -/
def withoutCommand (reading : Reading) : UsageError :=
  match reading.settle with
  | .error error => error
  | .ok settled => if settled.given.isEmpty then .nothingGiven else .missingSubcommand

/-- Reads the arguments before a command, and the command. -/
def readTop (reading : Reading) (escaped : Bool) : List String → Except UsageError Invocation
  | [] => .error (withoutCommand reading)
  | argument :: rest =>
      if escaped then .error (Level.top.misplaced true argument)
      else if !reading.awaits && argument == "help" then .error (helpOn rest)
      else
        match if reading.awaits then none else Subcommand.ofWord? argument with
        | some subcommand => invocation reading subcommand rest
        | none =>
            match Level.top.shape argument with
            | .escape => readTop reading true rest
            | .flag flag attached =>
                match reading.meet flag attached with
                | .error error => .error error
                | .ok next => readTop next false rest
            | .request error attached => .error (reading.request error attached)
            | .unknown => .error .unknownArgument
            | .plain =>
                match reading.pending with
                | some (flag, none) =>
                    readTop { reading with pending := some (flag, some argument) } false rest
                | _ => .error (Level.top.misplaced false argument)

/-- What the arguments say. -/
def parseArguments (arguments : List String) : Except UsageError Invocation :=
  readTop {} false arguments

end ParamSchema.CommandLine
