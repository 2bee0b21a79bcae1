import ParamSchema.Document.Decode
import ParamSchema.Files.Basic
import ParamSchema.Registry.Basic

/-!
Contract: registering schemas from definition files.

Owns:
- reading one definition file;
- the words for a directory whose names cannot be had;
- loading one file, and loading all definition files of a directory in order of name up to the
  first that fails.

Does not own: the file system, whose answers are given, and the line and column of a JSON error,
which its text leaves out (`Json.Fault`).
-/

namespace ParamSchema

/-- The document in a definition file. -/
def readDocument (files : Files) (path : String) : Except RegistryError SchemaDocument :=
  match files.readText path with
  | .error fault => .error (.malformed path ("Failed to read file: " ++ fault.message))
  | .ok text =>
      match SchemaDocument.parse text with
      | .error error => .error (.malformed path ("Invalid JSON: " ++ error.message))
      | .ok document => .ok document

/-- The words for a directory whose names cannot be had. -/
def ListingFault.reason : ListingFault → String
  | directory fault => "Failed to read schema directory: " ++ fault.message
  | entry fault => "Failed to read directory entry: " ++ fault.message

namespace Registry

/-- Registers the schema of one definition file. -/
def loadFile (registry : Registry) (files : Files) (path : String) : Reply Unit :=
  match readDocument files path with
  | .error error => ⟨registry, .error error, []⟩
  | .ok document => registry.registerFrom path document

/-- The record of a file that ends a load. -/
def rejected (path : String) (error : RegistryError) : Record :=
  ⟨.error, .schemaRejected, [("path", path), ("reason", error.message)]⟩

/-- The record of a load. -/
def loaded (directory : String) (count : Nat) : Record :=
  ⟨.info, .schemasLoaded, [("dir", directory), ("count", Nat.repr count)]⟩

/-- Loads files in order up to the first that fails. -/
def loadAll (registry : Registry) (files : Files) : List String → Reply Unit
  | [] => ⟨registry, .ok (), []⟩
  | path :: rest =>
      let first := registry.loadFile files path
      match first.result with
      | .error error =>
          { first with records := first.records ++ [rejected path error] }
      | .ok _ =>
          let others := first.registry.loadAll files rest
          { others with records := first.records ++ others.records }

/-- Loads the definition files of a directory in order of name; the result is their number. -/
def loadDirectory (registry : Registry) (files : Files) (directory : String) : Reply Nat :=
  match files.names directory with
  | .error fault => ⟨registry, .error (.malformed directory fault.reason), []⟩
  | .ok names =>
      let paths := (Files.definitions names).map (Files.join directory)
      let all := registry.loadAll files paths
      match all.result with
      | .error error => ⟨all.registry, .error error, all.records⟩
      | .ok _ =>
          ⟨all.registry, .ok paths.length, all.records ++ [loaded directory paths.length]⟩

end Registry

end ParamSchema
