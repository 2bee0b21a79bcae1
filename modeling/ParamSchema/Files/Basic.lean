/-!
Contract: what a file system answers.

Owns:
- the faults of reading files and directories, with their messages;
- the reading side of a file system, as a value;
- the names in a directory, which are had only when every entry of it can be read;
- names and extensions of files within a directory.

Does not own: any particular file system (`Files.Tree`, `Main`).
-/

namespace ParamSchema

inductive FileFault where
  | notFound
  | notADirectory
  | isADirectory
  /-- The file is not UTF-8. -/
  | notText
  /-- No file can have that path. -/
  | unusablePath
  /-- The path, or a name in it, is too long. -/
  | nameTooLong
  | other (message : String)

def FileFault.message : FileFault → String
  | notFound => "No such file or directory (os error 2)"
  | notADirectory => "Not a directory (os error 20)"
  | isADirectory => "Is a directory (os error 21)"
  | notText => "stream did not contain valid UTF-8"
  | unusablePath => "file name contained an unexpected NUL byte"
  | nameTooLong => "File name too long (os error 36)"
  | other message => message

/-- Why the names in a directory cannot be had. -/
inductive ListingFault where
  /-- The directory cannot be listed. -/
  | directory (fault : FileFault)
  /-- An entry of the listing cannot be read. -/
  | entry (fault : FileFault)

/-- The answers of a file system at one time. -/
structure Files where
  /-- The text of a file. -/
  readText : String → Except FileFault String
  /-- The entries of a directory, in any order: the name of each, if the entry can be read. -/
  listing : String → Except FileFault (List (Except FileFault String))

namespace Files

/-- The names in a directory. The first entry that cannot be read is the fault of them all. -/
def names (files : Files) (directory : String) : Except ListingFault (List String) :=
  match files.listing directory with
  | .error fault => .error (.directory fault)
  | .ok entries => (entries.mapM id).mapError .entry

/-- The path of a name in a directory. -/
def join (directory name : String) : String :=
  if directory.isEmpty || directory.endsWith "/" then directory ++ name
  else directory ++ "/" ++ name

/-- Whether a name ends in `.json` behind at least one other character. -/
def isDefinition (name : String) : Bool :=
  name.endsWith ".json" && name != ".json"

/-- The definition files among the names in a directory, in order of name. -/
def definitions (names : List String) : List String :=
  (names.filter isDefinition).mergeSort fun left right => decide (left ≤ right)

end Files

end ParamSchema
