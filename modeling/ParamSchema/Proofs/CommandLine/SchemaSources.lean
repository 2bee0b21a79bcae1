import Mathlib
import ParamSchema.CommandLine.Run
import ParamSchema.Proofs.Registry.Directories

/-!
Contract: the two ways of naming the schema of an input.

Owns:
- that what is shown of a validation depends on the schema that is found, not on where it is found;
- that a definition file of a directory that loads holds a document, whose name and action lead to
  its schema;
- that naming the file and naming the directory with name and action show the same.

Does not own: the log, in which only a directory leaves records of registrations.
-/

namespace ParamSchema

/-! ## Definition files -/

theorem readDocument_eq_ok_iff {files : Files} {path : String} {document : SchemaDocument} :
    readDocument files path = .ok document ↔
      ∃ text, files.readText path = .ok text ∧ SchemaDocument.parse text = .ok document := by
  unfold readDocument
  cases files.readText path with
  | error fault => simp
  | ok text => cases parsed : SchemaDocument.parse text <;> simp [parsed]

/-- The path of a file has no part in the document that is read from it. -/
theorem readDocument_of_sameText {files : Files} {path other : String} {document : SchemaDocument}
    (same : files.readText other = files.readText path)
    (read : readDocument files path = .ok document) : readDocument files other = .ok document := by
  rw [readDocument_eq_ok_iff] at read ⊢
  rwa [same]

namespace Registry

variable {files : Files} {registry : Registry} {directory file : String} {names : List String}
  {count : Nat}

/-- Each definition file of a directory that loads holds a document with a schema, which is then
found under the name and the action of the document. -/
theorem loadDirectory_found
    (loads : (registry.loadDirectory files directory).result = .ok count)
    (listed : files.names directory = .ok names) (held : file ∈ names)
    (extension : Files.HasJsonExtension file) :
    ∃ document schema, readDocument files (Files.join directory file) = .ok document ∧
      document.toSchema = .ok schema ∧
      (registry.loadDirectory files directory).registry.get? document.name document.action =
        some schema := by
  obtain ⟨-, added, registers, -⟩ :=
    (loadDirectory_loadsInOrder registry listed).counted count loads
  have isDefinition : file ∈ Files.definitions names := by
    rw [(Files.definitions_perm names).mem_iff, List.mem_filter, Files.isDefinition_iff]
    exact ⟨held, extension⟩
  obtain ⟨name, action, schema, asks, found⟩ :=
    registers.found (List.mem_map_of_mem (f := Files.join directory) isDefinition)
  cases asks with
  | file read valid => exact ⟨_, schema, read, valid, found⟩

end Registry

namespace CommandLine

/-! ## Schemas that are found -/

section Found

variable {files : Files} {sources : Sources} {document : SchemaDocument} {chosen : Schema}
  {path directory : String} {count : Nat}

theorem singleSchema_of_read (read : readDocument files path = .ok document)
    (valid : document.toSchema = .ok chosen) : singleSchema files path = .ok chosen := by
  unfold singleSchema
  rw [read]
  dsimp only
  rw [valid]

theorem registeredSchema_of_found
    (loads : (({} : Registry).loadDirectory files directory).result = .ok count)
    {name action : String}
    (found : (({} : Registry).loadDirectory files directory).registry.get? name action =
      some chosen) : (registeredSchema files directory name action).1 = .ok chosen := by
  unfold registeredSchema
  dsimp only
  rw [loads]
  dsimp only
  rw [found]

/-- Beside the log, a validation by a schema that is found is one of the input by that schema. -/
theorem run_validate_of_found {schema schemas name : Option String} {action : String}
    (found : (chosenSchema sources.files schema schemas name action).1 = .ok chosen)
    (settings : EngineConfig) (input : String) :
    ((Command.validate schema schemas name action input).run settings sources).stdout =
        (validateInput settings chosen sources input).stdout ∧
      ((Command.validate schema schemas name action input).run settings sources).result =
        (validateInput settings chosen sources input).result := by
  rw [Command.run]
  cases choice : chosenSchema sources.files schema schemas name action with
  | mk result records =>
      rw [choice] at found
      cases found
      exact ⟨rfl, rfl⟩

end Found

/-! ## Runs that show the same -/

/-- Two runs show the same when they write the same on standard output and end with the same error,
if any, and the same exit status. -/
structure Report.ShowsAs (report other : Report) : Prop where
  stdout : report.stdout = other.stdout
  error : report.error = other.error
  exitStatus : report.exitStatus = other.exitStatus

/-- Under any settings, commands with the same outcome beside the log show the same. -/
theorem Invocation.run_showsAs {sources : Sources} {command other : Command}
    (alike : ∀ settings,
      (command.run settings sources).stdout = (other.run settings sources).stdout ∧
        (command.run settings sources).result = (other.run settings sources).result)
    (config : Option String) :
    ((⟨config, command⟩ : Invocation).run sources).ShowsAs
      ((⟨config, other⟩ : Invocation).run sources) := by
  unfold Invocation.run
  cases loadConfig sources.files config with
  | error error => exact ⟨rfl, rfl, rfl⟩
  | ok settings =>
      dsimp only
      cases settings.severity with
      | error error => exact ⟨rfl, rfl, rfl⟩
      | ok minimum =>
          obtain ⟨sameStdout, sameResult⟩ := alike settings
          dsimp only
          rw [sameStdout, sameResult]
          exact ⟨rfl, rfl, rfl⟩

/-- When a directory loads, each of its definition files holds a document, and an input is validated
alike by that file, however its path is spelled, and by the name and the action of the document in
the directory. -/
theorem file_showsAs_directory {sources : Sources} {directory file path : String}
    {names : List String} {count : Nat}
    (loads : (({} : Registry).loadDirectory sources.files directory).result = .ok count)
    (listed : sources.files.names directory = .ok names) (held : file ∈ names)
    (extension : Files.HasJsonExtension file)
    (same : sources.files.readText path = sources.files.readText (Files.join directory file)) :
    ∃ document, readDocument sources.files path = .ok document ∧
      ∀ (config unreadName : Option String) (unreadAction input : String),
        ((⟨config, .validate (some path) none unreadName unreadAction input⟩ :
            Invocation).run sources).ShowsAs
          ((⟨config, .validate none (some directory) (some document.name) document.action input⟩ :
            Invocation).run sources) := by
  obtain ⟨document, chosen, read, valid, found⟩ :=
    Registry.loadDirectory_found loads listed held extension
  have readToo : readDocument sources.files path = .ok document :=
    readDocument_of_sameText same read
  refine ⟨document, readToo, fun config unreadName unreadAction input => ?_⟩
  have byFile : (chosenSchema sources.files (some path) none unreadName unreadAction).1 =
      .ok chosen := singleSchema_of_read readToo valid
  have byPair : (chosenSchema sources.files none (some directory) (some document.name)
      document.action).1 = .ok chosen := registeredSchema_of_found loads found
  refine Invocation.run_showsAs (fun settings => ?_) config
  obtain ⟨fileStdout, fileResult⟩ := run_validate_of_found byFile settings input
  obtain ⟨pairStdout, pairResult⟩ := run_validate_of_found byPair settings input
  exact ⟨fileStdout.trans pairStdout.symm, fileResult.trans pairResult.symm⟩

/-- A directory of two definition files and a note, listed in no particular order, and an empty list
to be validated. The path of one file has a second spelling. -/
def library : Sources where
  files := {
    readText := fun path =>
      if path = "schemas/users.json" ∨ path = "./schemas/users.json" then
        .ok "[\"users\",\"create\",true,[null,\"array\"]]"
      else if path = "schemas/limits.json" then
        .ok "[\"limits\",\"update\",true,[null,\"integer\",false,false,true,true]]"
      else .error .notFound
    listing := fun _ => .ok [.ok "users.json", .ok "notes.md", .ok "limits.json"] }
  stdin := .ok "[]"

theorem library_names (directory : String) :
    library.files.names directory = .ok ["users.json", "notes.md", "limits.json"] :=
  Files.names_eq_ok_iff.mpr rfl

theorem library_loads : (({} : Registry).loadDirectory library.files "schemas").result = .ok 2 := by
  have kept : ["users.json", "notes.md", "limits.json"].filter Files.isDefinition =
    ["users.json", "limits.json"] := by cbv
  have sorted : Files.definitions ["users.json", "notes.md", "limits.json"] =
      ["limits.json", "users.json"] :=
    Files.definitions_eq (by rw [kept]; decide) (by decide)
  unfold Registry.loadDirectory
  rw [library_names]
  dsimp only
  rw [sorted]
  cbv

theorem library_file_showsAs_directory :
    (({} : Registry).loadDirectory library.files "schemas").result = .ok 2 ∧
    ∃ document, readDocument library.files "./schemas/users.json" = .ok document ∧
      ((⟨none, .validate (some "./schemas/users.json") none none "default" "-"⟩ :
          Invocation).run library).ShowsAs
        ((⟨none, .validate none (some "schemas") (some document.name) document.action "-"⟩ :
          Invocation).run library) := by
  have extension : Files.HasJsonExtension "users.json" := ⟨"users", by decide, by decide⟩
  have sameText : library.files.readText "./schemas/users.json" =
    library.files.readText (Files.join "schemas" "users.json") := by cbv
  obtain ⟨document, read, showsAs⟩ :=
    file_showsAs_directory library_loads (library_names _) List.mem_cons_self extension sameText
  exact ⟨library_loads, document, read, showsAs none none "default" "-"⟩

end CommandLine

end ParamSchema
