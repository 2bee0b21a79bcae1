import ParamSchema.CommandLine.Run

/-!
Contract: the program.

Owns:
- reading the files, the directory and the standard input that an invocation names;
- writing what the run of the invocation shows, and the exit status.

Does not own: any decision about the content (`CommandLine.Run`).
-/

namespace ParamSchema.Program

open CommandLine

/-- The fault of an error number, which some operations of the system give negated. -/
def faultOfNumber? (number : UInt32) : Option FileFault :=
  if number = 2 ∨ number = 0 - 2 then some .notFound
  else if number = 20 ∨ number = 0 - 20 then some .notADirectory
  else if number = 21 ∨ number = 0 - 21 then some .isADirectory
  else if number = 36 ∨ number = 0 - 36 then some .nameTooLong
  else none

/-- The fault that an error of the operating system stands for. -/
def faultOf (error : IO.Error) : FileFault :=
  let known : Option FileFault := match error with
    | .noFileOrDirectory .. => some .notFound
    | .inappropriateType _ number _ | .invalidArgument _ number _ => faultOfNumber? number
    | _ => none
  known.getD (.other (toString error))

/-- The text of UTF-8 bytes. -/
def textOf (bytes : ByteArray) : Except FileFault String :=
  match String.fromUTF8? bytes with
  | some text => .ok text
  | none => .error .notText

/-- The text of a file. -/
def readText (path : String) : IO (Except FileFault String) := do
  try
    return textOf (← IO.FS.readBinFile path)
  catch error =>
    return .error (faultOf error)

/-- The names in a directory. They are listed all at once, so a fault in an entry is one of the
directory here. -/
def readNames (path : String) : IO (Except FileFault (List String)) := do
  try
    let entries ← ((← IO.currentDir) / path).readDir
    return .ok (entries.toList.map (·.fileName))
  catch error =>
    return .error (faultOf error)

/-- The files that an invocation may read, beside those of a directory. -/
def namedFiles (invocation : Invocation) : List String :=
  match invocation.command with
  | .validate schema _ _ _ input =>
      invocation.config.toList ++ schema.toList ++ (if isStdin input then [] else [input])
  | .check _ => invocation.config.toList

/-- The directory that an invocation may list. -/
def namedDirectory (invocation : Invocation) : Option String :=
  match invocation.command with
  | .validate _ schemas _ _ _ => schemas
  | .check schemas => some schemas

/-- Whether an invocation reads standard input. -/
def readsStdin (invocation : Invocation) : Bool :=
  match invocation.command with
  | .validate _ _ _ _ input => isStdin input
  | .check _ => false

/-- Answers for all that an invocation may ask for. -/
def gather (invocation : Invocation) : IO Sources := do
  let directory := namedDirectory invocation
  let names ← match directory with
    | none => pure (Except.error FileFault.notFound)
    | some path => readNames path
  let definitions := match directory, names with
    | some path, .ok names => (Files.definitions names).map (Files.join path)
    | _, _ => []
  let texts ← (namedFiles invocation ++ definitions).mapM fun path => do
    return (path, ← readText path)
  let stdin ←
    if readsStdin invocation then do
      let stream ← IO.getStdin
      let mut bytes := ByteArray.empty
      let mut chunk ← stream.read 65536
      for _ in [0:1000000] do
        if chunk.isEmpty then break
        bytes := bytes ++ chunk
        chunk ← stream.read 65536
      pure (textOf bytes)
    else pure (.ok "")
  return {
    files := {
      readText := fun path => (texts.lookup path).getD (.error .notFound)
      listing := fun path =>
        if some path = directory then names.map (·.map .ok) else .error .notFound }
    stdin := stdin }

/-- How the program is called. -/
def usage : String :=
  "Usage: typed-params [--config <FILE>] <COMMAND>\n\n" ++
    "Commands:\n" ++
    "  validate (--schema <FILE> | --schemas <DIRECTORY> --name <NAME> [--action <ACTION>])\n" ++
    "           [--input <FILE or ->]\n" ++
    "  check    [--schemas <DIRECTORY>]\n" ++
    "  help     [COMMAND]\n"

def version : String :=
  "typed-params 0.1.0\n"

/-- Says why there is nothing to run. What was asked for goes to standard output. -/
def explain : UsageError → IO Unit
  | .displayHelp => IO.print usage
  | .displayVersion => IO.print version
  | _ => IO.eprint usage

/-- Shows what the run of an invocation leads to. -/
def perform (invocation : Invocation) : IO UInt32 := do
  let report := invocation.run (← gather invocation)
  IO.print report.stdout
  (← IO.getStdout).flush
  IO.eprint report.log
  match report.error with
  | none => pure ()
  | some error => IO.eprintln error.display
  return UInt32.ofNat report.exitStatus

/-- Runs the program on its arguments and gives the exit status. -/
def run (arguments : List String) : IO UInt32 := do
  match parseArguments arguments with
  | .ok invocation => perform invocation
  | .error error =>
      explain error
      return UInt32.ofNat error.exitStatus

end ParamSchema.Program

def main (arguments : List String) : IO UInt32 :=
  ParamSchema.Program.run arguments
