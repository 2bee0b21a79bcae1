import ParamSchema.Proofs.Document.Mirror
import ParamSchema.Proofs.Validation.Finiteness
import ParamSchema.Proofs.Value.Interchange

/-!
Contract: JSON in and JSON out.

Owns:
- that the schema of a document has no transforms;
- that an output for a JSON input is read back from its tree as it is.

Does not own: the conversions by themselves (`Proofs.Value.Interchange`), and the text of a tree.
-/

namespace ParamSchema

/-! ## Outputs -/

namespace Schema

variable {schema : Schema} {limit : Nat} {input output value : Value} {path : Path}

/-- The schema of a document has no transforms. -/
theorem Mirrors.plain {document : SchemaDocument} (mirrors : schema.Mirrors document) :
    schema.Plain := by
  intro id
  by_cases inRange : id < document.params.preorder.length
  · exact (mirrors.describes id _ (List.getElem?_eq_getElem inRange)).noTransform
  · have isAbsent : schema.node id = .absent := by
      change schema.nodes[id]?.getD .absent = .absent
      have noNode : schema.nodes.size ≤ id := mirrors.size.trans_le (Nat.le_of_not_lt inRange)
      change schema.nodes[id]?.getD .absent = .absent
      rw [Array.getElem?_eq_none noNode, Option.getD_none]
    rw [isAbsent]
    rfl

theorem Visited.reaches {id found : NodeId}
    (visited : schema.Visited id input path found value) : input.Reaches path value := by
  induction visited with
  | here id value => exact .here value
  | beneath first rest inductionHypothesis => exact .beneath first.within inductionHypothesis

/-- An input without infinite numbers has an output without them: numbers at declared positions
are finite, and all others stand in containers of the input. -/
theorem allFinite_of_visit (coherent : schema.Coherent) (plain : schema.Plain)
    (reduced : schema.visit limit 0 root input [] = .ok output) (finite : input.AllFinite) :
    output.AllFinite := by
  intro path number reaches
  by_contra infinite
  obtain ⟨above, id, container, route, source, -, enclosed, visited, -⟩ :=
    (finiteFloats_of_visit coherent plain reduced).copied path number reaches
      (by simpa using infinite)
  exact infinite (finite _ number (visited.reaches.append enclosed.within))

end Schema

namespace SchemaDocument

/-- What a document's schema makes of a JSON input has finite numbers only, is read back from its
JSON tree as it is, and is nil wherever the tree has null. -/
theorem interchange_lossless {document : SchemaDocument} {schema : Schema}
    (made : document.toSchema = .ok schema) (config : EngineConfig) (input : Json) {output : Value}
    (accepted : schema.validate config (Value.ofJson input) = .ok output) :
    (∀ path number, output.Reaches path (.float number) → number.isFinite = true) ∧
      Value.ofJson output.toJson = output ∧
        ∀ path, output.toJson.Reaches path .null → output.Reaches path .nil := by
  have built : schema.Built := .document made
  have finite : output.AllFinite :=
    Schema.allFinite_of_visit built.coherent (mirrors_of_toSchema made).plain
      (Schema.validate_eq_ok_iff.mp accepted).2 (Value.allFinite_ofJson input)
  exact ⟨finite, finite.ofJson_toJson, fun path reaches => finite.null_reached reaches⟩

/-- An object with a count, which may be written as a text, and with an object that keeps whatever
it holds. -/
def survey : SchemaDocument where
  name := "survey"
  params := {
    typeName := "object"
    fields := some [
      { key := some "count", typeName := "integer", coerce := true },
      { key := some "raw", typeName := "object", optional := true, allowNonScalars := true }] }

def surveySchema : Schema where
  nodes := #[
    { key := none, parent := none, type := .object, options := {},
      children := .keyed [("count", 1), ("raw", 2)] },
    { key := some (.field "count"), parent := some 0, type := .integer,
      options := { coerce := true }, children := .scalar },
    { key := some (.field "raw"), parent := some 0, type := .object,
      options := { optional := true, allowNonScalars := true }, children := .keyed [] }]
  strict := true

theorem toSchema_survey : survey.toSchema = .ok surveySchema := by
  cbv

/-- A count written as a text, and a list of null and the float three. -/
def answers : Json :=
  .object [("count", .string "42"),
    ("raw", .object [("list", .array [.null, .number (.float ⟨0x4008000000000000⟩ (by decide))])])]

/-- The count is an integer, and three is a float still. -/
def counted : Value :=
  .map [("count", .integer 42), ("raw", .map [("list", .seq [.nil, .float ⟨0x4008000000000000⟩])])]

theorem validate_survey_answers :
    surveySchema.validate {} (Value.ofJson answers) = .ok counted := by
  cbv

theorem survey_interchange_lossless :
    (∀ path number, counted.Reaches path (.float number) → number.isFinite = true) ∧
      Value.ofJson counted.toJson = counted ∧
        ∀ path, counted.toJson.Reaches path .null → counted.Reaches path .nil :=
  interchange_lossless toSchema_survey {} answers validate_survey_answers

end SchemaDocument

end ParamSchema
