import ParamSchema.CommandLine.Run
import ParamSchema.Proofs.Json.Reading

/-!
Contract: what a run writes and how it ends tell the same.

Owns:
- response lines, as a reader of JSON finds them;
- the ways in which a run ends, by the step that decides it;
- the agreement of standard output with the error that a run returns.

Does not own: the log, and faults of writing, of which a run knows nothing.
-/

namespace ParamSchema.CommandLine

open Json (Draft Fault Number)

/-! ## Lines -/

/-- One line and nothing else, which is read as one object of these members and no more. -/
structure IsLineOf (line : String) (members : List (String × Json)) : Prop where
  ended : ∃ text, line = text ++ "\n" ∧ '\n' ∉ text.toList
  reads : Json.Document.ofText line = ⟨Draft.ofJson Number.reread (.object members), none⟩

theorem isLineOf_responseLine (members : List (String × Json)) :
    IsLineOf (responseLine members) members where
  ended := ⟨_, rfl, Json.newline_not_mem_render _⟩
  reads := (Json.ofText_render _).2

/-- Whether the object on a line has that status. -/
def HasStatus (line status : String) : Prop :=
  ∃ members, IsLineOf line members ∧ ("status", Json.string status) ∈ members

/-- A member that is a text is found again in what an object is read as. -/
theorem mem_ofMembers (reading : Number → Except Fault Number) {members : List (String × Json)}
    {key text : String} : (.ok key, .string (.ok text)) ∈ Draft.ofMembers reading members ↔
      (key, Json.string text) ∈ members := by
  induction members with
  | nil => exact ⟨nofun, nofun⟩
  | cons member rest inductionHypothesis =>
      obtain ⟨otherKey, value⟩ := member
      rw [Draft.ofMembers, List.mem_cons, List.mem_cons, inductionHypothesis]
      cases value <;> simp [Draft.ofJson]

theorem hasStatus_iff {line status : String} {members : List (String × Json)}
    (isLine : IsLineOf line members) :
    HasStatus line status ↔ ("status", Json.string status) ∈ members := by
  constructor
  · rintro ⟨others, isLineToo, held⟩
    have same := isLineToo.reads.symm.trans isLine.reads
    simp only [Draft.ofJson, Json.Document.mk.injEq, Draft.object.injEq, and_true] at same
    rw [← mem_ofMembers Number.reread, ← same]
    exact (mem_ofMembers _).mpr held
  · intro held
    exact ⟨members, isLine, held⟩

theorem IsLineOf.ne_empty {line : String} {members : List (String × Json)}
    (isLine : IsLineOf line members) : line ≠ "" := by
  obtain ⟨text, rfl, -⟩ := isLine.ended
  simp

theorem not_hasStatus_empty (status : String) : ¬HasStatus "" status :=
  fun ⟨_, isLine, _⟩ => isLine.ne_empty rfl

theorem isLineOf_successLine (data : Json) :
    IsLineOf (successLine data) [("data", data), ("status", .string "ok")] :=
  isLineOf_responseLine _

theorem hasStatus_successLine (data : Json) (status : String) :
    HasStatus (successLine data) status ↔ status = "ok" := by
  rw [hasStatus_iff (isLineOf_successLine data)]
  simp

theorem isLineOf_failureLine (code : String) (path : Option String) (message : String) :
    IsLineOf (failureLine code path message)
      ([("code", .string code), ("message", .string message)] ++
        (path.map fun path => ("path", Json.string path)).toList ++
          [("status", .string "error")]) := by
  cases path <;> exact isLineOf_responseLine _

theorem hasStatus_failureLine (code : String) (path : Option String) (message status : String) :
    HasStatus (failureLine code path message) status ↔ status = "error" := by
  rw [hasStatus_iff (isLineOf_failureLine code path message)]
  cases path <;> simp

/-! ## Ends of runs -/

namespace Invocation

/-- A step in front of the response fails: the settings, the schema or the input cannot be had. -/
inductive Stops (invocation : Invocation) (sources : Sources) : CommandError → Prop where
  | settings {error : CommandError}
      (failed : loadConfig sources.files invocation.config = .error error) :
      Stops invocation sources error
  | severity {config : EngineConfig} {error : SettingError}
      (loaded : loadConfig sources.files invocation.config = .ok config)
      (failed : config.severity = .error error) : Stops invocation sources ⟨.config, error.message⟩
  | schema {schema schemas name : Option String} {action input : String} {error : CommandError}
      (command : invocation.command = .validate schema schemas name action input)
      (failed : (chosenSchema sources.files schema schemas name action).1 = .error error) :
      Stops invocation sources error
  | input {schema schemas name : Option String} {action input : String} {chosen : Schema}
      {error : CommandError}
      (command : invocation.command = .validate schema schemas name action input)
      (found : (chosenSchema sources.files schema schemas name action).1 = .ok chosen)
      (failed : readInput sources input = .error error) : Stops invocation sources error

/-- All that an input needs is there, and the validator rejects it. -/
inductive Rejects (invocation : Invocation) (sources : Sources) : ValidationError → Prop where
  | intro {config : EngineConfig} {schema schemas name : Option String} {action input : String}
      {chosen : Schema} {tree : Json} {violation : ValidationError}
      (loaded : loadConfig sources.files invocation.config = .ok config)
      (command : invocation.command = .validate schema schemas name action input)
      (found : (chosenSchema sources.files schema schemas name action).1 = .ok chosen)
      (read : readInput sources input = .ok tree)
      (rejected : chosen.validate config (Value.ofJson tree) = .error violation) :
      Rejects invocation sources violation

/-- How a run ends: with what is written, and with which error. -/
inductive Ends (invocation : Invocation) (sources : Sources) :
    String → Option CommandError → Prop where
  | stopped {error : CommandError} (stops : invocation.Stops sources error) :
      Ends invocation sources "" (some error)
  | succeeded (data : Json) : Ends invocation sources (successLine data) none
  | rejected {violation : ValidationError} (rejects : invocation.Rejects sources violation) :
      Ends invocation sources
        (failureLine violation.code (some violation.path.render) violation.message)
        (some ⟨.rejected, violation.display⟩)
  | refused {directory : String} {error : CommandError}
      (command : invocation.command = .check directory) :
      Ends invocation sources (failureLine error.code.text none error.message) (some error)

theorem run_ends (invocation : Invocation) (sources : Sources) :
    invocation.Ends sources (invocation.run sources).stdout (invocation.run sources).error := by
  unfold run
  cases loaded : loadConfig sources.files invocation.config with
  | error error => exact .stopped (.settings loaded)
  | ok config =>
      dsimp only
      cases leveled : config.severity with
      | error error => exact .stopped (.severity loaded leveled)
      | ok minimum =>
          dsimp only
          cases command : invocation.command with
          | check directory =>
              rw [Command.run, listSchemas]
              dsimp only
              split
              · exact .refused command
              · exact .succeeded _
          | validate schema schemas name action input =>
              rw [Command.run]
              cases choice : chosenSchema sources.files schema schemas name action with
              | mk chosen records =>
                  have result :
                      (chosenSchema sources.files schema schemas name action).1 = chosen :=
                    congrArg Prod.fst choice
                  cases chosen with
                  | error error => exact .stopped (.schema command result)
                  | ok found =>
                      dsimp only
                      rw [validateInput]
                      cases read : readInput sources input with
                      | error error => exact .stopped (.input command result read)
                      | ok tree =>
                          dsimp only
                          cases verdict : found.validate config (Value.ofJson tree) with
                          | ok output => exact .succeeded _
                          | error violation =>
                              exact .rejected (.intro loaded command result read verdict)

/-- What is written agrees with the error that is returned, and both with what has happened. -/
structure Agrees (invocation : Invocation) (sources : Sources) (report : Report) : Prop where
  /-- There is one line with one object, which says how the run went, unless nothing is written. -/
  line : report.stdout = "" ∨ ∃ members, IsLineOf report.stdout members ∧
    ∃ status ∈ ["ok", "error"], ("status", Json.string status) ∈ members
  ok_iff : HasStatus report.stdout "ok" ↔ report.error = none
  exit_iff : report.exitStatus = 0 ↔ report.error = none
  /-- An error that is written for an input is the one that the validator found. -/
  rejected : ∀ schema schemas name action input,
    invocation.command = .validate schema schemas name action input →
    HasStatus report.stdout "error" →
    ∃ violation error, invocation.Rejects sources violation ∧
      IsLineOf report.stdout [("code", .string violation.code),
        ("message", .string violation.message), ("path", .string violation.path.render),
        ("status", .string "error")] ∧
      report.error = some error ∧ error.code.text = "PARAMS_CLI_REJECTED" ∧
      error.message =
        violation.code ++ " at " ++ violation.path.render ++ ": " ++ violation.message
  /-- An error that is written for a directory is the one returned, and has no path. -/
  refused : ∀ directory, invocation.command = .check directory →
    HasStatus report.stdout "error" →
    ∃ error, report.error = some error ∧
      IsLineOf report.stdout [("code", .string error.code.text), ("message", .string error.message),
        ("status", .string "error")]
  silent : report.stdout = "" → ∃ error, report.error = some error ∧ invocation.Stops sources error

theorem exitStatus_eq_zero_iff (report : Report) : report.exitStatus = 0 ↔ report.error = none := by
  unfold Report.exitStatus
  cases report.error <;> simp

variable {invocation : Invocation} {sources : Sources} {stdout : String}
  {error : Option CommandError}

/-- A run that ends has written nothing or one line that says how it went. -/
theorem Ends.line (ends : invocation.Ends sources stdout error) :
    stdout = "" ∨ ∃ members, IsLineOf stdout members ∧
      ∃ status ∈ ["ok", "error"], ("status", Json.string status) ∈ members := by
  cases ends with
  | stopped => exact .inl rfl
  | succeeded data => exact .inr ⟨_, isLineOf_successLine data, "ok", by simp, by simp⟩
  | rejected | refused => exact .inr ⟨_, isLineOf_failureLine _ _ _, "error", by simp, by simp⟩

/-- A run that ends has written that all is well just when it returns no error. -/
theorem Ends.hasStatus_ok_iff (ends : invocation.Ends sources stdout error) :
    HasStatus stdout "ok" ↔ error = none := by
  cases ends with
  | stopped => exact iff_of_false (not_hasStatus_empty "ok") nofun
  | succeeded data => exact iff_of_true ((hasStatus_successLine data "ok").mpr rfl) rfl
  | rejected | refused =>
      rw [hasStatus_failureLine]
      exact iff_of_false (by decide) nofun

/-- A run that ends with an error on standard output is one of the two that write a failure. -/
theorem Ends.of_hasStatus_error (ends : invocation.Ends sources stdout error)
    (has : HasStatus stdout "error") :
    (∃ violation, invocation.Rejects sources violation ∧
      stdout = failureLine violation.code (some violation.path.render) violation.message ∧
      error = some ⟨.rejected, violation.display⟩) ∨
    ∃ directory failure, invocation.command = .check directory ∧
      stdout = failureLine failure.code.text none failure.message ∧ error = some failure := by
  cases ends with
  | stopped => exact absurd has (not_hasStatus_empty "error")
  | succeeded data => exact absurd ((hasStatus_successLine data "error").mp has) (by decide)
  | rejected rejects => exact .inl ⟨_, rejects, rfl, rfl⟩
  | refused command => exact .inr ⟨_, _, command, rfl, rfl⟩

/-- A run that ends without having written anything was stopped in front of the response. -/
theorem Ends.stops (ends : invocation.Ends sources "" error) :
    ∃ failure, error = some failure ∧ invocation.Stops sources failure := by
  generalize written : "" = stdout at ends
  cases ends with
  | stopped stops => exact ⟨_, rfl, stops⟩
  | succeeded data => exact absurd written.symm (isLineOf_successLine data).ne_empty
  | rejected | refused => exact absurd written.symm (isLineOf_failureLine _ _ _).ne_empty

theorem Rejects.command {violation : ValidationError}
    (rejects : invocation.Rejects sources violation) :
    ∃ schema schemas name action input,
      invocation.command = .validate schema schemas name action input := by
  cases rejects with
  | intro _ command => exact ⟨_, _, _, _, _, command⟩

/-- Whatever the command, the files and the input are, standard output, the exit status and the
error of a run tell the same. -/
theorem run_agrees (invocation : Invocation) (sources : Sources) :
    invocation.Agrees sources (invocation.run sources) := by
  have ends := run_ends invocation sources
  refine {
    line := ends.line
    ok_iff := ends.hasStatus_ok_iff
    exit_iff := exitStatus_eq_zero_iff _
    rejected := ?rejected
    refused := ?refused
    silent := fun empty => (empty ▸ ends).stops }
  case rejected =>
    intro schema schemas name action input validates has
    rcases ends.of_hasStatus_error has with
      ⟨violation, rejects, written, returned⟩ | ⟨_, _, checks, -⟩
    · rw [written]
      exact ⟨violation, _, rejects, isLineOf_failureLine _ (some _) _, returned, rfl, rfl⟩
    · cases validates.symm.trans checks
  case refused =>
    intro directory checks has
    rcases ends.of_hasStatus_error has with ⟨_, rejects, -⟩ | ⟨_, error, -, written, returned⟩
    · obtain ⟨_, _, _, _, _, validates⟩ := rejects.command
      cases validates.symm.trans checks
    · rw [written]
      exact ⟨error, returned, isLineOf_failureLine _ none _⟩

end Invocation

end ParamSchema.CommandLine
