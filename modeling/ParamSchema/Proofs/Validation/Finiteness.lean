import ParamSchema.Proofs.Validation.Places
import ParamSchema.Proofs.Validation.Revalidation

/-!
Contract: the numbers of an output.

Owns:
- that a number at a declared position is finite;
- that all other numbers of an output stand in containers that it has from the input as they are;
- that no input passes with a number that is not finite at a visited position.

Does not own: what stands in containers beneath which nothing is declared, and how conversions
round.
-/

namespace ParamSchema.Schema

/-! ## Outputs and inputs -/

/-- What is known of the numbers of an output for an input. -/
structure FiniteFloats (schema : Schema) (input output : Value) : Prop where
  /-- At declared positions every number is finite. -/
  declared : ∀ path id number, schema.Position root output path id (.float number) →
    number.isFinite = true
  /-- A number that is not finite stands in a container beneath which nothing is declared. The
  container is found in the input, as it is and at the same depth, at a position that is visited. -/
  copied : ∀ path number, output.Reaches path (.float number) → number.isFinite = false →
    ∃ above id container route source, path = above ++ route ∧
      schema.Enclosed output above id container route (.float number) ∧
      schema.Visited root input source id container ∧ source.length = above.length

section Floats

variable {schema : Schema} {config : EngineConfig} {limit : Nat} {id : NodeId}
  {input output : Value} {path : Path} {number : Binary64}

/-- Only a finite number satisfies a node. -/
theorem Satisfies.isFinite (satisfies : schema.Satisfies id (.float number)) :
    number.isFinite = true := by
  have ofSomeType : TypeName.classify (.float number) ≠ none := by
    cases satisfies.fits with
    | ofType ofType =>
        rw [ofType]
        exact Option.some_ne_none _
  by_contra infinite
  exact ofSomeType (TypeName.classify_eq_none_iff.mpr ⟨number, rfl, by simpa using infinite⟩)

theorem finiteFloats_of_visit (coherent : schema.Coherent) (plain : schema.Plain)
    (reduced : schema.visit limit 0 root input [] = .ok output) :
    schema.FiniteFloats input output := by
  have declared : ∀ path id number, schema.Position root output path id (.float number) →
      number.isFinite = true := by
    intro path id number position
    exact (satisfies_of_position coherent plain reduced position).isFinite
  refine ⟨declared, ?copied⟩
  case copied =>
    intro path number reaches infinite
    rcases place_of_reaches coherent plain reduced reaches with
      ⟨id, position⟩ | ⟨above, id, container, route, same, enclosed⟩
    · rw [declared path id number position] at infinite
      cases infinite
    · obtain ⟨source, -, visited, sameLength, -⟩ := enclosed.visited plain reduced
      exact ⟨above, id, container, route, source, same, enclosed, visited, sameLength⟩

/-- The visit of an input does not get past a number that is not finite. -/
theorem isFinite_of_visit (plain : schema.Plain)
    (reduced : schema.visit limit 0 root input [] = .ok output)
    (visited : schema.Visited root input path id (.float number)) : number.isFinite = true := by
  obtain ⟨outputPath, part, sourcePath, -, -, visitedPart⟩ :=
    image_of_visited plain visited reduced
  obtain ⟨inLimit, -⟩ := visitStep_of_visit plain visitedPart
  by_contra infinite
  have ofNoType : TypeName.classify (.float number) = none :=
    TypeName.classify_eq_none_iff.mpr ⟨number, rfl, by simpa using infinite⟩
  rw [visit_unclassified inLimit ofNoType] at visitedPart
  cases visitedPart

/-- Without transforms, the numbers of an output are finite but for those in containers that are
copied from the input, and a visited number of the input that is not finite makes it fail. -/
theorem floats_finite (built : schema.Built) (plain : schema.Plain) (config : EngineConfig)
    (input : Value) :
    (∀ output, schema.validate config input = .ok output → schema.FiniteFloats input output) ∧
    ∀ path id number, schema.Visited root input path id (.float number) →
      number.isFinite = false → ∃ error, schema.validate config input = .error error := by
  constructor
  · intro output accepted
    exact finiteFloats_of_visit built.coherent plain (validate_eq_ok_iff.mp accepted).2
  · intro path id number visited infinite
    cases outcome : schema.validate config input with
    | error error => exact ⟨error, rfl⟩
    | ok output =>
        rw [isFinite_of_visit plain (validate_eq_ok_iff.mp outcome).2 visited] at infinite
        cases infinite

end Floats

/-! ### A schema of readings -/

/-- A strict object with a number `mean` and an object `raw` that keeps whatever it holds. -/
def readings : Schema where
  nodes := #[
    { key := none, parent := none, type := .object, options := {},
      children := .keyed [("mean", 1), ("raw", 2)] },
    { key := some (.field "mean"), parent := some 0, type := .float, options := {},
      children := .scalar },
    { key := some (.field "raw"), parent := some 0, type := .object,
      options := { optional := true, allowNonScalars := true }, children := .keyed [] }]
  strict := true

theorem readings_built : readings.Built := by
  have made : Schema.build true [.field "mean" .float {},
      .object "raw" { optional := true, allowNonScalars := true } []] = .ok readings := rfl
  exact .define made

theorem readings_plain : readings.Plain := by
  intro id
  match id with
  | 0 | 1 | 2 => rfl
  | id + 3 => rfl

/-- The mean is one, and a word that is not a number is in a list of the readings. -/
def spoiled : Value :=
  .map [("mean", .float ⟨0x3ff0000000000000⟩), ("raw", .map [("list", .seq [.float .notANumber])])]

theorem spoiled_reaches :
    spoiled.Reaches [.field "raw", .field "list", .index 0] (.float .notANumber) := by
  have raw : spoiled.Part (.field "raw") (.map [("list", .seq [.float .notANumber])]) :=
    .entry (List.mem_cons_of_mem _ (List.mem_singleton.mpr rfl))
  have list : Value.Part (.map [("list", .seq [.float .notANumber])]) (.field "list")
    (.seq [.float .notANumber]) := .entry (List.mem_singleton.mpr rfl)
  exact .beneath raw (.beneath list (.beneath (.element rfl) (.here _)))

theorem validate_readings_spoiled : readings.validate {} spoiled = .ok spoiled := by
  cbv

theorem readings_floats_finite :
    readings.FiniteFloats spoiled spoiled ∧
      ∃ error, readings.validate {} (.map [("mean", .float .notANumber)]) = .error error := by
  have declared : (readings.node root).children = .keyed [("mean", 1), ("raw", 2)] := rfl
  have isPart : readings.VisitedPart root (.map [("mean", .float .notANumber)]) (.field "mean") 1
      (.float .notANumber) :=
    ⟨declaredPart_field declared rfl (List.mem_singleton.mpr rfl), rfl⟩
  obtain ⟨finite, -⟩ := floats_finite readings_built readings_plain {} spoiled
  obtain ⟨-, rejects⟩ := floats_finite readings_built readings_plain {}
    (.map [("mean", .float .notANumber)])
  exact ⟨finite spoiled validate_readings_spoiled,
    rejects _ _ _ (.beneath isPart (.here _ _)) (by decide)⟩

/-- Not every number of an output is finite. -/
theorem not_always_finite :
    ¬∀ (schema : Schema) (config : EngineConfig) (input output : Value), schema.Built →
      schema.Plain → schema.validate config input = .ok output →
        ∀ path number, output.Reaches path (.float number) → number.isFinite = true := by
  intro always
  have finite := always readings {} spoiled spoiled readings_built readings_plain
    validate_readings_spoiled _ _ spoiled_reaches
  revert finite
  decide

end ParamSchema.Schema
