import ParamSchema.CommandLine.Run
import ParamSchema.Proofs.CommandLine.Arguments

/-!
Contract: the source of the schema that accepted arguments name.

Owns:
- the rules between the options of a validation, and that a command is made exactly under them;
- that an accepted validation names one source, and takes it from its arguments;
- that no run of an accepted command fails for want of a source.

Does not own: whether the source that is named can be read.
-/

namespace ParamSchema.CommandLine

/-! ## Rules between options -/

/-- The rules between the options of a validation: a file and a directory exclude each other, the
file is required unless there is the directory, and the directory requires a name. -/
structure Reading.Allowed (reading : Reading) : Prop where
  conflict : ¬((reading.value? .schema).isSome ∧ (reading.value? .schemas).isSome)
  required : (reading.value? .schemas).isNone → (reading.value? .schema).isSome
  requires : (reading.value? .schemas).isSome → (reading.value? .name).isSome

/-- A command is made exactly of the values that the rules allow. -/
theorem command_validate_eq_ok_iff {reading : Reading} {command : Command} :
    Subcommand.validate.command reading = .ok command ↔
      reading.Allowed ∧ command = .validate (reading.value? .schema) (reading.value? .schemas)
        (reading.value? .name) ((reading.value? .action).getD "default")
        ((reading.value? .input).getD "-") := by
  unfold Subcommand.command
  dsimp only
  split
  · next both =>
      exact iff_of_false nofun fun made => made.1.conflict (Bool.and_eq_true_iff.mp both)
  split
  · next notBoth neither =>
      obtain ⟨noSchema, noSchemas⟩ := Bool.and_eq_true_iff.mp neither
      refine iff_of_false nofun fun made => ?_
      simpa [Option.isNone_iff_eq_none.mp noSchema] using made.1.required noSchemas
  split
  · next notBoth notNeither nameless =>
      obtain ⟨hasSchemas, noName⟩ := Bool.and_eq_true_iff.mp nameless
      refine iff_of_false nofun fun made => ?_
      simpa [Option.isNone_iff_eq_none.mp noName] using made.1.requires hasSchemas
  · next notBoth notNeither named =>
      have allowed : reading.Allowed := by
        refine ⟨fun both => notBoth (Bool.and_eq_true_iff.mpr both), fun noSchemas => ?_,
          fun hasSchemas => ?_⟩
        · rw [noSchemas, Bool.and_true] at notNeither
          simpa [Option.isSome_iff_ne_none] using notNeither
        · rw [hasSchemas, Bool.true_and] at named
          simpa [Option.isSome_iff_ne_none] using named
      simp [allowed, eq_comm]

/-- Either a file is named, or a directory with a name of a schema in it. -/
inductive OneSource : Option String → Option String → Option String → Prop where
  | file (path : String) (name : Option String) : OneSource (some path) none name
  | directory (path name : String) : OneSource none (some path) (some name)

theorem Reading.Allowed.oneSource {reading : Reading} (allowed : reading.Allowed) :
    OneSource (reading.value? .schema) (reading.value? .schemas) (reading.value? .name) := by
  obtain ⟨conflict, required, requires⟩ := allowed
  cases schemas : reading.value? .schemas with
  | none =>
      obtain ⟨path, schema⟩ := Option.isSome_iff_exists.mp (required (by rw [schemas]; rfl))
      rw [schema]
      exact .file path _
  | some path =>
      obtain ⟨name, named⟩ := Option.isSome_iff_exists.mp (requires (by rw [schemas]; rfl))
      cases schema : reading.value? .schema with
      | none =>
          rw [named]
          exact .directory path name
      | some file => exact absurd ⟨by rw [schema]; rfl, by rw [schemas]; rfl⟩ conflict

/-- The source of a validation is what the arguments behind the word of the command write. -/
def SourceWritten (arguments : List String) (schema schemas name : Option String) : Prop :=
  ∃ before behind, arguments = before ++ "validate" :: behind ∧
    (∀ path, schema = some path ↔ Writes .schema path behind) ∧
    (∀ path, schemas = some path ↔ Writes .schemas path behind) ∧
    ∀ title, name = some title ↔ Writes .name title behind

theorem source_of_parseArguments {arguments : List String} {invocation : Invocation}
    (parsed : parseArguments arguments = .ok invocation) {schema schemas name : Option String}
    {action input : String}
    (validates : invocation.command = .validate schema schemas name action input) :
    OneSource schema schemas name ∧ SourceWritten arguments schema schemas name := by
  obtain ⟨before, word, behind, subcommand, reading, split, isWord, reads, made⟩ :=
    exists_behind_of_parseArguments parsed
  rw [validates] at made
  cases subcommand with
  | check => cases made
  | validate =>
      obtain ⟨allowed, isMade⟩ := command_validate_eq_ok_iff.mp made
      cases isMade
      refine ⟨allowed.oneSource, before, behind, ?_, ?_⟩
      · rw [split, word_of_subcommand isWord]
      · exact ⟨value?_eq_some_iff_writes reads .schema, value?_eq_some_iff_writes reads .schemas,
          value?_eq_some_iff_writes reads .name⟩

/-! ## Errors of runs -/

/-- The error of a validation for which no source is given. -/
def noSource : CommandError :=
  ⟨.schema, "No schema source given"⟩

theorem ne_noSource_of_mem {error : CommandError} (character : Char)
    (absent : character ∉ noSource.message.toList) (member : character ∈ error.message.toList) :
    error ≠ noSource := by
  rintro rfl
  exact absent member

/-- Every error of a registry but a violation quotes a path or a name. -/
theorem quote_mem_message {error : RegistryError}
    (notViolation : ∀ violation, error ≠ .validation violation) : '\'' ∈ error.message.toList := by
  cases error with
  | validation violation => exact absurd rfl (notViolation violation)
  | malformed path reason | definition path source =>
      unfold RegistryError.message
      simp
  | alreadyRegistered name action =>
      change '\'' ∈ ("schema '" ++ name ++ "' for action '" ++ action ++ "'" ++
        " is already registered").toList
      simp
  | unknownSchema name action =>
      change '\'' ∈ ("schema '" ++ name ++ "' for action '" ++ action ++ "'" ++ " not found").toList
      simp

theorem quote_not_mem_noSource : '\'' ∉ noSource.message.toList := by
  decide

theorem ofRegistry_ne_noSource (error : RegistryError) :
    CommandError.ofRegistry error ≠ noSource := by
  cases error with
  | validation violation =>
      intro same
      cases congrArg CommandError.code same
  | malformed | definition | alreadyRegistered | unknownSchema =>
      exact ne_noSource_of_mem _ quote_not_mem_noSource (quote_mem_message nofun)

section Steps

variable {files : Files} {sources : Sources} {error : CommandError}

theorem code_of_loadConfig {path : Option String} (failed : loadConfig files path = .error error) :
    error.code = .config := by
  unfold loadConfig at failed
  split at failed
  · cases failed
  · split at failed <;> cases failed
    rfl

theorem code_of_inputText {path : String} (failed : inputText sources path = .error error) :
    error.code = .io := by
  unfold inputText at failed
  split at failed <;> split at failed <;> cases failed <;> rfl

theorem code_of_readInput {path : String} (failed : readInput sources path = .error error) :
    error.code = .io := by
  rcases Except.bind_eq_error_iff.mp failed with failed | ⟨text, -, failed⟩
  · exact code_of_inputText failed
  · by_cases blank : Text.isBlank text = true
    · rw [if_pos blank] at failed
      cases failed
      rfl
    · rw [if_neg blank] at failed
      cases parsed : Json.parse text <;> rw [parsed] at failed <;> cases failed
      rfl

theorem singleSchema_ne_noSource (files : Files) (path : String) :
    singleSchema files path ≠ .error noSource := by
  unfold singleSchema
  split
  · next error _ => simpa using ofRegistry_ne_noSource error
  · split
    · nofun
    · next error _ =>
      intro same
      have colon : ':' ∉ noSource.message.toList := by decide
      refine ne_noSource_of_mem _ colon ?_ (Except.error.inj same)
      simp

theorem registeredSchema_ne_noSource (files : Files) (directory name action : String) :
    (registeredSchema files directory name action).1 ≠ .error noSource := by
  unfold registeredSchema
  dsimp only
  split
  · next error _ => simpa using ofRegistry_ne_noSource error
  · split
    · nofun
    · simpa using ofRegistry_ne_noSource _

theorem listSchemas_ne_noSource (files : Files) (directory : String) :
    (listSchemas files directory).result ≠ .error noSource := by
  unfold listSchemas
  dsimp only
  split
  · next error _ => simpa using ofRegistry_ne_noSource error
  · nofun

/-- A source that is named is looked for, whatever comes of it. -/
theorem OneSource.chosenSchema_ne {schema schemas name : Option String}
    (oneSource : OneSource schema schemas name) (files : Files) (action : String) :
    (chosenSchema files schema schemas name action).1 ≠ .error noSource := by
  cases oneSource with
  | file path name => exact singleSchema_ne_noSource files path
  | directory path name => exact registeredSchema_ne_noSource files path name action

theorem validateInput_ne_noSource (settings : EngineConfig) (schema : Schema) (sources : Sources)
    (path : String) : (validateInput settings schema sources path).result ≠ .error noSource := by
  unfold validateInput
  split
  · next error failed =>
      intro same
      have code := code_of_readInput failed
      rw [Except.error.inj same] at code
      cases code
  · dsimp only
    split
    · nofun
    · intro same
      cases congrArg CommandError.code (Except.error.inj same)

/-- No command that names its source fails for want of one. -/
theorem Command.run_ne_noSource {command : Command}
    (named : ∀ schema schemas name action input,
      command = .validate schema schemas name action input → OneSource schema schemas name)
    (settings : EngineConfig) (sources : Sources) :
    (command.run settings sources).result ≠ .error noSource := by
  cases command with
  | check directory => exact listSchemas_ne_noSource sources.files directory
  | validate schema schemas name action input =>
      have oneSource := named schema schemas name action input rfl
      have chosenNe := oneSource.chosenSchema_ne sources.files action
      rw [Command.run]
      cases choice : chosenSchema sources.files schema schemas name action with
      | mk chosen records =>
          rw [choice] at chosenNe
          cases chosen with
          | error error =>
              exact fun same => chosenNe (congrArg Except.error (Except.error.inj same))
          | ok found => exact validateInput_ne_noSource settings found sources input

/-- The error of a run is one of its settings or of its command. -/
theorem Invocation.error_of_run {invocation : Invocation}
    (returned : (invocation.run sources).error = some error) :
    error.code = .config ∨
      ∃ settings, (invocation.command.run settings sources).result = .error error := by
  unfold Invocation.run at returned
  cases loaded : loadConfig sources.files invocation.config with
  | error failure =>
      rw [loaded] at returned
      cases returned
      exact .inl (code_of_loadConfig loaded)
  | ok settings =>
      rw [loaded] at returned
      dsimp only at returned
      cases leveled : settings.severity with
      | error failure =>
          rw [leveled] at returned
          cases returned
          exact .inl rfl
      | ok minimum =>
          rw [leveled] at returned
          dsimp only at returned
          cases result : (invocation.command.run settings sources).result with
          | ok _ =>
              rw [result] at returned
              cases returned
          | error failure =>
              rw [result] at returned
              cases returned
              exact .inr ⟨settings, result⟩

end Steps

/-- Arguments that are accepted as a validation name one source, a file or else a directory with a
name, and write it behind the word of the command. No accepted command fails for want of a source,
whatever its files and its input are. -/
theorem parsed_names_oneSource {arguments : List String} {invocation : Invocation}
    (parsed : parseArguments arguments = .ok invocation) :
    (∀ schema schemas name action input,
      invocation.command = .validate schema schemas name action input →
        OneSource schema schemas name ∧ SourceWritten arguments schema schemas name) ∧
    ∀ sources, (invocation.run sources).error ≠ some ⟨.schema, "No schema source given"⟩ := by
  have named : ∀ schema schemas name action input,
      invocation.command = .validate schema schemas name action input →
        OneSource schema schemas name ∧ SourceWritten arguments schema schemas name :=
    fun _ _ _ _ _ validates => source_of_parseArguments parsed validates
  refine ⟨named, fun sources returned => ?_⟩
  rcases Invocation.error_of_run returned with code | ⟨settings, failed⟩
  · cases code
  · refine Command.run_ne_noSource (fun schema schemas name action input validates => ?_) settings
      sources failed
    exact (named schema schemas name action input validates).1

/-- The settings are named in front of the command, in a file that is called like it. -/
theorem repeated_word_oneSource :
    parseArguments
        ["--config", "validate", "validate", "--name", "n", "--input=-", "--schemas=dir"] =
        .ok ⟨some "validate", .validate none (some "dir") (some "n") "default" "-"⟩ ∧
      OneSource none (some "dir") (some "n") := by
  have parsed : parseArguments
      ["--config", "validate", "validate", "--name", "n", "--input=-", "--schemas=dir"] =
        .ok ⟨some "validate", .validate none (some "dir") (some "n") "default" "-"⟩ := by
    rfl
  exact ⟨parsed, ((parsed_names_oneSource parsed).1 _ _ _ _ _ rfl).1⟩

end ParamSchema.CommandLine
