import Mathlib.Data.Prod.Lex
import Mathlib.Data.String.Basic
import ParamSchema.Proofs.Schema.Coherence
import ParamSchema.Proofs.Sorting
import ParamSchema.Registry.Files

/-!
Contract: what operations do to the registrations of a registry.

Owns:
- operations on a registry, runs of them, and the registries that a new one becomes;
- that operations only add registrations, each for a pair that had none;
- that registering is all or nothing;
- that the keys are in order and are exactly the registered pairs.

Does not own: which documents have schemas (`Proofs.Document.Mirror`).
-/

namespace ParamSchema

/-- A reply without the value of its result. -/
def Reply.outcome {α : Type} (reply : Reply α) : Reply Unit :=
  ⟨reply.registry, reply.result.map fun _ => (), reply.records⟩

namespace Registry

/-! ## Operations -/

/-- What a caller can ask of a registry. An operation that reads files is given the answers of the
file system at its time. -/
inductive Operation where
  | register (name action : String) (schema : Schema)
  | registerDocument (document : SchemaDocument)
  | loadFile (files : Files) (path : String)
  | loadDirectory (files : Files) (directory : String)
  | get (name action : String)
  | keys
  | validate (name action : String) (input : Value)

/-- What an operation leads to, whatever it answers. -/
def perform (registry : Registry) : Operation → Reply Unit
  | .register name action schema => registry.register name action schema
  | .registerDocument document => registry.registerDocument document
  | .loadFile files path => registry.loadFile files path
  | .loadDirectory files directory => (registry.loadDirectory files directory).outcome
  | .get _ _ | .keys => ⟨registry, .ok (), []⟩
  | .validate name action input => (registry.validate name action input).outcome

/-- The registry after operations in order, whether they succeed or fail. -/
def run (registry : Registry) : List Operation → Registry
  | [] => registry
  | operation :: rest => (registry.perform operation).registry.run rest

/-- The registries that a new one becomes by operations. -/
inductive Reached : Registry → Prop where
  | new (config : EngineConfig) : Reached { config := config }
  | step {registry : Registry} (reached : Reached registry) (operation : Operation) :
      Reached (registry.perform operation).registry

/-! ## Growth -/

/-- No pair is registered twice. -/
def Distinct (registry : Registry) : Prop :=
  (registry.entries.map Prod.fst).Nodup

/-- A registry has come from another by registrations for pairs that had none. -/
structure Grows (before after : Registry) : Prop where
  config : after.config = before.config
  entries : before.entries <+: after.entries
  distinct : before.Distinct → after.Distinct

/-- A registry with one more registration. -/
def adding (registry : Registry) (name action : String) (schema : Schema) : Registry :=
  { registry with entries := registry.entries ++ [((name, action), schema)] }

section Growth

variable {registry before middle after : Registry} {name action : String} {schema : Schema}

theorem Grows.refl (registry : Registry) : Grows registry registry :=
  ⟨rfl, List.prefix_refl _, id⟩

theorem Grows.trans (first : Grows before middle) (second : Grows middle after) :
    Grows before after :=
  ⟨second.config.trans first.config, first.entries.trans second.entries,
    fun distinct => second.distinct (first.distinct distinct)⟩

theorem Grows.get? (grows : Grows before after) (found : before.get? name action = some schema) :
    after.get? name action = some schema := by
  obtain ⟨added, same⟩ := grows.entries
  unfold Registry.get? at found ⊢
  rw [← same, List.lookup_append, found, Option.some_or]

theorem contains_eq_true_iff :
    registry.contains name action = true ↔ (name, action) ∈ registry.entries.map Prod.fst := by
  unfold contains Registry.get?
  rw [List.lookup_isSome_iff, List.mem_map]
  constructor
  · rintro ⟨entry, held, same⟩
    exact ⟨entry, held, (beq_iff_eq.mp same).symm⟩
  · rintro ⟨entry, held, same⟩
    exact ⟨entry, held, beq_iff_eq.mpr same.symm⟩

theorem grows_adding (absent : registry.contains name action = false) (schema : Schema) :
    Grows registry (registry.adding name action schema) := by
  refine ⟨rfl, List.prefix_append _ _, fun distinct => ?_⟩
  have notHeld : (name, action) ∉ registry.entries.map Prod.fst := by
    rw [← contains_eq_true_iff, absent]
    exact Bool.false_ne_true
  exact nodup_keys_append schema distinct notHeld

theorem get?_adding (absent : registry.contains name action = false) (schema : Schema)
    (otherName otherAction : String) :
    (registry.adding name action schema).get? otherName otherAction =
      if (otherName, otherAction) = (name, action) then some schema
      else registry.get? otherName otherAction := by
  unfold Registry.get? adding
  rw [List.lookup_append]
  by_cases same : (otherName, otherAction) = (name, action)
  · cases same
    have notFound : registry.entries.lookup (name, action) = none := by
      simpa [contains, Registry.get?] using absent
    rw [if_pos rfl, notFound, Option.none_or, List.lookup_cons_self]
  · rw [if_neg same, List.lookup_cons, beq_false_of_ne same]
    exact Option.or_none

end Growth

/-! ## Steps -/

section Steps

variable {registry : Registry} {files : Files}

/-- Registering is refused where the pair is registered, and otherwise adds one registration. -/
theorem register_cases (registry : Registry) (name action : String) (schema : Schema) :
    (registry.contains name action = true ∧ registry.register name action schema =
      ⟨registry, .error (.alreadyRegistered name action), []⟩) ∨
    (registry.contains name action = false ∧ registry.register name action schema =
      ⟨registry.adding name action schema, .ok (), [registered name action]⟩) := by
  unfold register
  by_cases held : registry.contains name action
  · exact .inl ⟨held, if_pos held⟩
  · exact .inr ⟨by simpa using held, if_neg held⟩

theorem register_grows (name action : String) (schema : Schema) :
    Grows registry (registry.register name action schema).registry := by
  rcases register_cases registry name action schema with ⟨-, same⟩ | ⟨absent, same⟩
  · rw [same]
    exact .refl registry
  · rw [same]
    exact grows_adding absent schema

theorem registerFrom_grows (path : String) (document : SchemaDocument) :
    Grows registry (registry.registerFrom path document).registry := by
  unfold registerFrom
  split
  · exact .refl registry
  · exact register_grows _ _ _

theorem loadFile_grows (path : String) :
    Grows registry (registry.loadFile files path).registry := by
  unfold loadFile
  split
  · exact .refl registry
  · exact registerFrom_grows _ _

/-- A load that a file ends keeps what the files before it have added. -/
theorem loadAll_grows (paths : List String) :
    Grows registry (registry.loadAll files paths).registry := by
  induction paths generalizing registry with
  | nil => exact .refl registry
  | cons path rest inductionHypothesis =>
      have first : Grows registry (registry.loadFile files path).registry := loadFile_grows path
      unfold loadAll
      dsimp only
      split
      · exact first
      · exact first.trans inductionHypothesis

theorem loadDirectory_grows (directory : String) :
    Grows registry (registry.loadDirectory files directory).registry := by
  unfold loadDirectory
  split
  · exact .refl registry
  · dsimp only
    split
    · exact loadAll_grows _
    · exact loadAll_grows _

theorem validate_registry (name action : String) (input : Value) :
    (registry.validate name action input).registry = registry := by
  unfold validate
  split
  · rfl
  · rfl

/-- Every operation, successful or failing, only adds registrations. -/
theorem perform_grows (registry : Registry) (operation : Operation) :
    Grows registry (registry.perform operation).registry := by
  cases operation with
  | register name action schema => exact register_grows name action schema
  | registerDocument document => exact registerFrom_grows _ document
  | loadFile files path => exact loadFile_grows path
  | loadDirectory files directory => exact loadDirectory_grows directory
  | get | keys => exact .refl registry
  | validate name action input =>
      have same : (registry.perform (.validate name action input)).registry = registry :=
        validate_registry name action input
      rw [same]
      exact .refl registry

theorem run_grows (registry : Registry) (operations : List Operation) :
    Grows registry (registry.run operations) := by
  induction operations generalizing registry with
  | nil => exact .refl registry
  | cons operation rest inductionHypothesis =>
      exact (perform_grows registry operation).trans (inductionHypothesis _)

theorem Reached.distinct (reached : registry.Reached) : registry.Distinct := by
  induction reached with
  | new config => exact List.nodup_nil
  | step _ operation inductionHypothesis =>
      exact (perform_grows _ operation).distinct inductionHypothesis

end Steps

/-! ## Registering -/

/-- What an operation asks to be registered: the pair and the schema that are given, or those of
the document that is given or read from a file. -/
inductive Operation.AsksFor : Operation → String → String → Schema → Prop where
  | register (name action : String) (schema : Schema) :
      AsksFor (.register name action schema) name action schema
  | document {document : SchemaDocument} {schema : Schema}
      (valid : document.toSchema = .ok schema) :
      AsksFor (.registerDocument document) document.name document.action schema
  | file {files : Files} {path : String} {document : SchemaDocument} {schema : Schema}
      (read : readDocument files path = .ok document) (valid : document.toSchema = .ok schema) :
      AsksFor (.loadFile files path) document.name document.action schema

/-- The operations that register one schema. -/
def Operation.isRegistration : Operation → Bool
  | .register .. | .registerDocument .. | .loadFile .. => true
  | .loadDirectory .. | .get .. | .keys | .validate .. => false

/-- A registration is all or nothing: it succeeds exactly when it asks for a schema under a pair
that has none, then it adds just that, and when it fails it changes nothing. -/
structure AllOrNothing (registry : Registry) (operation : Operation) : Prop where
  succeeds : (registry.perform operation).result = .ok () ↔
    ∃ name action schema, operation.AsksFor name action schema ∧
      registry.contains name action = false
  adds : ∀ name action schema, operation.AsksFor name action schema →
    (registry.perform operation).result = .ok () → ∀ otherName otherAction,
      (registry.perform operation).registry.get? otherName otherAction =
        if (otherName, otherAction) = (name, action) then some schema
        else registry.get? otherName otherAction
  keeps : ∀ error, (registry.perform operation).result = .error error →
    (registry.perform operation).registry = registry

section Registering

variable {registry : Registry} {operation : Operation} {name action : String} {schema : Schema}

/-- An operation asks for one registration at most. -/
theorem Operation.AsksFor.unique {otherName otherAction : String} {other : Schema}
    (asks : operation.AsksFor name action schema)
    (asksOther : operation.AsksFor otherName otherAction other) :
    otherName = name ∧ otherAction = action ∧ other = schema := by
  cases asks with
  | register =>
      cases asksOther
      exact ⟨rfl, rfl, rfl⟩
  | document valid =>
      cases asksOther with
      | document validOther =>
          cases valid.symm.trans validOther
          exact ⟨rfl, rfl, rfl⟩
  | file read valid =>
      cases asksOther with
      | file readOther validOther =>
          cases read.symm.trans readOther
          cases valid.symm.trans validOther
          exact ⟨rfl, rfl, rfl⟩

theorem allOrNothing_of_asks (asks : operation.AsksFor name action schema)
    (same : registry.perform operation = registry.register name action schema) :
    registry.AllOrNothing operation := by
  rcases register_cases registry name action schema with ⟨held, refused⟩ | ⟨absent, added⟩
  · rw [refused] at same
    constructor
    case succeeds =>
      rw [same]
      constructor
      · intro succeeds
        cases succeeds
      · rintro ⟨otherName, otherAction, other, asksOther, absent⟩
        obtain ⟨rfl, rfl, -⟩ := asks.unique asksOther
        rw [held] at absent
        cases absent
    case adds =>
      intro otherName otherAction other _ succeeds
      rw [same] at succeeds
      cases succeeds
    case keeps =>
      intro error _
      rw [same]
  · rw [added] at same
    constructor
    case succeeds =>
      rw [same]
      exact ⟨fun _ => ⟨name, action, schema, asks, absent⟩, fun _ => rfl⟩
    case adds =>
      intro otherName otherAction other asksOther _ anyName anyAction
      obtain ⟨rfl, rfl, rfl⟩ := asks.unique asksOther
      rw [same]
      exact get?_adding absent other anyName anyAction
    case keeps =>
      intro error failed
      rw [same] at failed
      cases failed

theorem allOrNothing_of_refused {error : RegistryError}
    (noneAsked : ∀ name action schema, ¬operation.AsksFor name action schema)
    (refused : registry.perform operation = ⟨registry, .error error, []⟩) :
    registry.AllOrNothing operation := by
  constructor
  case succeeds =>
    rw [refused]
    constructor
    · intro succeeds
      cases succeeds
    · rintro ⟨name, action, schema, asks, -⟩
      exact absurd asks (noneAsked name action schema)
  case adds =>
    intro name action schema asks
    exact absurd asks (noneAsked name action schema)
  case keeps =>
    intro error _
    rw [refused]

theorem perform_allOrNothing (registry : Registry)
    (isRegistration : operation.isRegistration = true) : registry.AllOrNothing operation := by
  cases operation with
  | register name action schema =>
      exact allOrNothing_of_asks (.register name action schema) rfl
  | registerDocument document =>
      have performed : registry.perform (.registerDocument document) =
        registry.registerFrom "<in-memory>" document := rfl
      unfold registerFrom at performed
      cases built : document.toSchema with
      | error source =>
          rw [built] at performed
          refine allOrNothing_of_refused (fun name action schema asks => ?_) performed
          cases asks with
          | document valid => cases built.symm.trans valid
      | ok schema =>
          rw [built] at performed
          exact allOrNothing_of_asks (.document built) performed
  | loadFile files path =>
      have performed : registry.perform (.loadFile files path) = registry.loadFile files path := rfl
      unfold loadFile at performed
      cases found : readDocument files path with
      | error error =>
          rw [found] at performed
          refine allOrNothing_of_refused (fun name action schema asks => ?_) performed
          cases asks with
          | file read => cases found.symm.trans read
      | ok document =>
          rw [found] at performed
          dsimp only at performed
          unfold registerFrom at performed
          cases built : document.toSchema with
          | error source =>
              rw [built] at performed
              refine allOrNothing_of_refused (fun name action schema asks => ?_) performed
              cases asks with
              | file read valid =>
                  cases found.symm.trans read
                  cases built.symm.trans valid
          | ok schema =>
              rw [built] at performed
              exact allOrNothing_of_asks (.file found built) performed
  | loadDirectory | get | keys | validate => cases isRegistration

end Registering

/-! ## Keys -/

/-- One pair stands before another, by name and then by action. -/
def PairBefore (left right : String × String) : Prop :=
  left.1 < right.1 ∨ (left.1 = right.1 ∧ left.2 < right.2)

/-- The keys are strictly ascending, are exactly the registered pairs, and are as many as there are
registrations. -/
structure KeysExact (registry : Registry) : Prop where
  ascending : registry.keys.Pairwise PairBefore
  mem_iff : ∀ name action, (name, action) ∈ registry.keys ↔ registry.contains name action = true
  length : registry.keys.length = registry.size

theorem comparesBy_pair : ComparesBy pairLe (toLex : String × String → Lex (String × String)) := by
  intro left right
  rw [Prod.Lex.toLex_le_toLex]
  simp [pairLe]

theorem keys_perm (registry : Registry) : registry.keys.Perm (registry.entries.map Prod.fst) :=
  List.mergeSort_perm _ _

theorem keys_pairwise_le (registry : Registry) :
    registry.keys.Pairwise fun left right => toLex left ≤ toLex right :=
  comparesBy_pair.pairwise_mergeSort (registry.entries.map Prod.fst)

theorem Distinct.keysExact {registry : Registry} (distinct : registry.Distinct) :
    registry.KeysExact := by
  have noneTwice : registry.keys.Nodup := (keys_perm registry).nodup_iff.mpr distinct
  constructor
  case ascending =>
    refine ((keys_pairwise_le registry).and noneTwice).imp fun {left right} both => ?_
    exact Prod.Lex.toLex_lt_toLex.mp
      (lt_of_le_of_ne both.1 fun same => both.2 (toLex.injective same))
  case mem_iff =>
    intro name action
    rw [(keys_perm registry).mem_iff, contains_eq_true_iff]
  case length =>
    rw [(keys_perm registry).length_eq, List.length_map]
    rfl

/-! ## Registrations last -/

/-- In every registry that a new one becomes: what is registered under a pair stays there whatever
is done later, a registration is all or nothing, and the keys are exact. -/
theorem registrations_last {registry : Registry} (reached : registry.Reached) :
    (∀ operations name action schema, registry.get? name action = some schema →
      (registry.run operations).get? name action = some schema) ∧
    (∀ operation : Operation, operation.isRegistration = true → registry.AllOrNothing operation) ∧
    registry.KeysExact := by
  refine ⟨?lasting, ?registering, ?keys⟩
  case lasting =>
    intro operations name action schema found
    exact (run_grows registry operations).get? found
  case registering =>
    intro operation isRegistration
    exact perform_allOrNothing registry isRegistration
  case keys => exact reached.distinct.keysExact

/-- A registry with two registrations, the later one first in order. -/
def roster : Registry :=
  run {} [.register "users" "update" (.leaf .object {} true),
    .register "users" "create" (.leaf .array {} true)]

theorem roster_reached : roster.Reached :=
  .step (.step (.new {}) _) _

theorem roster_registrations_last :
    roster.get? "users" "update" = some (.leaf .object {} true) ∧
      (roster.run [.register "users" "update" (.leaf .string {} true), .keys]).get?
        "users" "update" = some (.leaf .object {} true) ∧
      roster.AllOrNothing (.register "users" "update" (.leaf .string {} true)) ∧
      roster.KeysExact := by
  obtain ⟨lasting, registering, keys⟩ := registrations_last roster_reached
  exact ⟨rfl, lasting _ _ _ _ rfl, registering _ rfl, keys⟩

end Registry

end ParamSchema
