import ParamSchema.Document.Decode
import ParamSchema.Proofs.Document.Preorder
import ParamSchema.Proofs.Json.Trees

/-!
Contract: inclusion lists as they are held.

Owns:
- definitions in whose inclusion lists, at every depth, objects have their members in order of key;
- that every document that is read has such lists only.

Does not own: writing documents (`Proofs.Document.Serialisation`).
-/

namespace ParamSchema

open Json (Draft Fault ReadError Stop)

/-- A draft that is not what is wanted gives nothing. -/
theorem Json.Draft.mismatch_ne_ok {α : Type} (draft : Draft) (wanted : String) (result : α) :
    draft.mismatch wanted ≠ .ok result := by
  unfold mismatch
  split <;> nofun

namespace ParamDefinition

/-- In every inclusion list, at every depth, objects have their members in order of key. -/
def InclusionsOrdered (definition : ParamDefinition) : Prop :=
  ∀ part ∈ definition.preorder, ∀ value ∈ part.inclusion, value.Ordered

theorem inclusionsOrdered_iff_beneath {definition : ParamDefinition} :
    definition.InclusionsOrdered ↔ (∀ value ∈ definition.inclusion, value.Ordered) ∧
      ∀ child ∈ definition.beneath, child.InclusionsOrdered := by
  unfold InclusionsOrdered
  rw [preorder_eq, List.forall_mem_cons, List.forall_mem_flatMap]

theorem inclusionsOrdered_iff {definition : ParamDefinition} : definition.InclusionsOrdered ↔
    (∀ value ∈ definition.inclusion, value.Ordered) ∧
      (∀ field ∈ definition.fields.getD [], field.InclusionsOrdered) ∧
      (∀ item ∈ definition.items.getD [], item.InclusionsOrdered) ∧
      ∀ template ∈ definition.each, template.InclusionsOrdered := by
  rw [inclusionsOrdered_iff_beneath, beneath, List.forall_mem_append, List.forall_mem_append,
    and_assoc]
  simp only [Option.mem_toList, Option.mem_def]

theorem inclusionsOrdered_unread : unread.InclusionsOrdered :=
  inclusionsOrdered_iff.mpr ⟨nofun, nofun, nofun, nofun⟩

variable {levels : Nat}

theorem ordered_of_expectTrees {draft : Draft} {trees : List Json}
    (read : draft.expectTrees levels = .ok trees) : ∀ tree ∈ trees, tree.Ordered := by
  cases draft with
  | array elements stop =>
      cases levels with
      | zero => cases read
      | succ below =>
          obtain ⟨trees, held, closed⟩ := Except.bind_eq_ok_iff.mp read
          cases stop <;> cases closed
          exact Json.ordered_of_elementsToJson elements held
  | scalar | string => exact absurd read (Draft.mismatch_ne_ok _ _ _)
  | object | fault => cases read

theorem inclusionsOrdered_of_assign {field : ParamField} {value : Draft}
    {asDefinition : Unit → Except ReadError ParamDefinition}
    {asDefinitions : Unit → Except ReadError (List ParamDefinition)}
    {definition next : ParamDefinition} (ordered : definition.InclusionsOrdered)
    (one : ∀ read, asDefinition () = .ok read → read.InclusionsOrdered)
    (many : ∀ read, asDefinitions () = .ok read → ∀ part ∈ read, part.InclusionsOrdered)
    (assigned : assign levels field value asDefinition asDefinitions definition = .ok next) :
    next.InclusionsOrdered := by
  rw [inclusionsOrdered_iff] at ordered ⊢
  obtain ⟨inInclusion, inFields, inItems, inEach⟩ := ordered
  cases field with
  | key | type | optional | allowNil | allowBlank | coerce | allowNonScalars =>
      obtain ⟨read, -, rfl⟩ := Except.map_eq_ok_iff.mp assigned
      exact ⟨inInclusion, inFields, inItems, inEach⟩
  | inclusion =>
      obtain ⟨read, found, rfl⟩ := Except.map_eq_ok_iff.mp assigned
      exact ⟨ordered_of_expectTrees found, inFields, inItems, inEach⟩
  | fields =>
      rw [assign] at assigned
      split at assigned
      · cases assigned
        exact ⟨inInclusion, nofun, inItems, inEach⟩
      · obtain ⟨read, found, rfl⟩ := Except.map_eq_ok_iff.mp assigned
        exact ⟨inInclusion, many read found, inItems, inEach⟩
  | items =>
      rw [assign] at assigned
      split at assigned
      · cases assigned
        exact ⟨inInclusion, inFields, nofun, inEach⟩
      · obtain ⟨read, found, rfl⟩ := Except.map_eq_ok_iff.mp assigned
        exact ⟨inInclusion, inFields, many read found, inEach⟩
  | each =>
      rw [assign] at assigned
      split at assigned
      · cases assigned
        exact ⟨inInclusion, inFields, inItems, nofun⟩
      · obtain ⟨read, found, rfl⟩ := Except.map_eq_ok_iff.mp assigned
        refine ⟨inInclusion, inFields, inItems, ?_⟩
        rintro _ ⟨⟩
        exact one read found

theorem eq_of_endOfList {remaining : List ParamField} {definition result : ParamDefinition}
    {stop : Option Stop} (read : endOfList remaining definition stop = .ok result) :
    result = definition := by
  unfold endOfList at read
  split at read
  · obtain ⟨-, -, same⟩ := Except.bind_eq_ok_iff.mp read
    cases same
    rfl
  · obtain ⟨-, -, read⟩ := Except.bind_eq_ok_iff.mp read
    split at read <;> cases read
    rfl

mutual

theorem inclusionsOrdered_of_decode :
    ∀ (draft : Draft) {levels : Nat} {definition : ParamDefinition},
    decode levels draft = .ok definition → definition.InclusionsOrdered
  | .scalar _, _, _, read | .string _, _, _, read => absurd read (Draft.mismatch_ne_ok _ _ _)
  | .array _ _, 0, _, read | .object _ _, 0, _, read | .fault _, _, _, read => by cases read
  | .array elements stop, below + 1, _, read =>
      inclusionsOrdered_of_decodeFields elements inclusionsOrdered_unread read
  | .object members stop, below + 1, _, read => by
      obtain ⟨⟨seen, definition⟩, held, closed⟩ := Except.bind_eq_ok_iff.mp read
      obtain ⟨-, -, kept⟩ := Except.bind_eq_ok_iff.mp closed
      split at kept <;> cases kept
      exact inclusionsOrdered_of_decodeMembers members inclusionsOrdered_unread held

theorem inclusionsOrdered_of_decodeList : ∀ (draft : Draft) {levels : Nat}
    {definitions : List ParamDefinition}, decodeList levels draft = .ok definitions →
      ∀ definition ∈ definitions, definition.InclusionsOrdered
  | .scalar _, _, _, read | .string _, _, _, read => absurd read (Draft.mismatch_ne_ok _ _ _)
  | .object _ _, _, _, read | .fault _, _, _, read | .array _ _, 0, _, read => by cases read
  | .array elements stop, below + 1, _, read => by
      obtain ⟨definitions, held, closed⟩ := Except.bind_eq_ok_iff.mp read
      cases stop <;> cases closed
      exact inclusionsOrdered_of_decodeAll elements held

theorem inclusionsOrdered_of_decodeAll : ∀ (elements : List Draft) {levels : Nat}
    {definitions : List ParamDefinition}, decodeAll levels elements = .ok definitions →
      ∀ definition ∈ definitions, definition.InclusionsOrdered
  | [], _, _, read => by
      cases read
      simp
  | element :: rest, _, _, read => by
      obtain ⟨definition, first, read⟩ := Except.bind_eq_ok_iff.mp read
      obtain ⟨definitions, others, same⟩ := Except.bind_eq_ok_iff.mp read
      cases same
      exact List.forall_mem_cons.mpr
        ⟨inclusionsOrdered_of_decode element first, inclusionsOrdered_of_decodeAll rest others⟩

theorem inclusionsOrdered_of_decodeMembers : ∀ (members : List (Except Fault String × Draft))
    {levels : Nat} {seen : List ParamField} {definition : ParamDefinition}
    {result : List ParamField × ParamDefinition}, definition.InclusionsOrdered →
    decodeMembers levels seen definition members = .ok result → result.2.InclusionsOrdered
  | [], _, _, _, _, ordered, read => by
      cases read
      exact ordered
  | (key, value) :: rest, _, _, _, _, ordered, read => by
      obtain ⟨name, -, read⟩ := Except.bind_eq_ok_iff.mp read
      split at read
      · cases read
      · split at read
        · cases read
        · obtain ⟨next, assigned, read⟩ := Except.bind_eq_ok_iff.mp read
          exact inclusionsOrdered_of_decodeMembers rest
            (inclusionsOrdered_of_assign ordered
              (fun _ => inclusionsOrdered_of_decode value)
              (fun _ => inclusionsOrdered_of_decodeList value) assigned) read

theorem inclusionsOrdered_of_decodeFields : ∀ (elements : List Draft) {levels : Nat}
    {stop : Option Stop} {remaining : List ParamField} {definition result : ParamDefinition},
    definition.InclusionsOrdered →
    decodeFields levels stop remaining definition elements = .ok result → result.InclusionsOrdered
  | [], _, _, _, _, _, ordered, read => by
      rw [eq_of_endOfList read]
      exact ordered
  | element :: rest, _, _, remaining, _, _, ordered, read => by
      cases remaining with
      | nil => cases read
      | cons field later =>
          obtain ⟨next, assigned, read⟩ := Except.bind_eq_ok_iff.mp read
          exact inclusionsOrdered_of_decodeFields rest
            (inclusionsOrdered_of_assign ordered
              (fun _ => inclusionsOrdered_of_decode element)
              (fun _ => inclusionsOrdered_of_decodeList element) assigned) read

end

end ParamDefinition

namespace SchemaDocument

variable {levels : Nat}

/-- What has been read of a document has ordered inclusion lists as far as it goes. -/
def Partial.InclusionsOrdered (read : Partial) : Prop :=
  ∀ params, read.params = some params → params.InclusionsOrdered

theorem Partial.inclusionsOrdered_of_assign {read next : Partial} {value : Draft}
    {field : DocumentField} (ordered : read.InclusionsOrdered)
    (assigned : read.assign levels value field = .ok next) : next.InclusionsOrdered := by
  cases field with
  | name | action | strict =>
      obtain ⟨found, -, rfl⟩ := Except.map_eq_ok_iff.mp assigned
      exact ordered
  | params =>
      obtain ⟨found, decoded, rfl⟩ := Except.map_eq_ok_iff.mp assigned
      rintro _ ⟨⟩
      exact ParamDefinition.inclusionsOrdered_of_decode value decoded

theorem Partial.inclusionsOrdered_of_finish {read : Partial} {missing : DocumentField → ReadError}
    {document : SchemaDocument} (ordered : read.InclusionsOrdered)
    (finished : read.finish missing = .ok document) : document.params.InclusionsOrdered := by
  unfold Partial.finish at finished
  split at finished
  · cases finished
  · cases finished
  · next named held =>
      cases finished
      exact ordered _ held

theorem inclusionsOrdered_of_decodeMembers {members : List (Except Fault String × Draft)}
    {before after : Partial} (ordered : before.InclusionsOrdered)
    (read : decodeMembers levels before members = .ok after) : after.InclusionsOrdered := by
  induction members generalizing before with
  | nil =>
      cases read
      exact ordered
  | cons member rest inductionHypothesis =>
      obtain ⟨name, -, read⟩ := Except.bind_eq_ok_iff.mp read
      split at read
      · cases read
      · split at read
        · cases read
        · obtain ⟨next, assigned, read⟩ := Except.bind_eq_ok_iff.mp read
          exact inductionHypothesis (Partial.inclusionsOrdered_of_assign ordered assigned) read

theorem inclusionsOrdered_of_decodeFields {elements : List Draft} {stop : Option Stop}
    {remaining : List DocumentField} {before : Partial} {document : SchemaDocument}
    (ordered : before.InclusionsOrdered)
    (read : decodeFields levels stop remaining before elements = .ok document) :
    document.params.InclusionsOrdered := by
  induction elements generalizing remaining before with
  | nil =>
      rw [decodeFields] at read
      split at read
      all_goals
        obtain ⟨_, _, finished⟩ := Except.bind_eq_ok_iff.mp read
        exact Partial.inclusionsOrdered_of_finish ordered finished
  | cons element rest inductionHypothesis =>
      cases remaining with
      | nil => cases read
      | cons field later =>
          obtain ⟨next, assigned, read⟩ := Except.bind_eq_ok_iff.mp read
          exact inductionHypothesis (Partial.inclusionsOrdered_of_assign ordered assigned) read

/-- Whatever draft a document is read from, the objects in its inclusion lists come in order of
key. -/
theorem inclusionsOrdered_of_decode {draft : Draft} {document : SchemaDocument}
    (read : decode levels draft = .ok document) : document.params.InclusionsOrdered := by
  have nothingRead : ({} : Partial).InclusionsOrdered := nofun
  cases draft with
  | scalar | string => exact absurd read (Draft.mismatch_ne_ok _ _ _)
  | fault => cases read
  | array elements stop =>
      cases levels with
      | zero => cases read
      | succ below => exact inclusionsOrdered_of_decodeFields nothingRead read
  | object members stop =>
      cases levels with
      | zero => cases read
      | succ below =>
          obtain ⟨after, held, read⟩ := Except.bind_eq_ok_iff.mp read
          obtain ⟨-, -, finished⟩ := Except.bind_eq_ok_iff.mp read
          exact Partial.inclusionsOrdered_of_finish
            (inclusionsOrdered_of_decodeMembers nothingRead held) finished

end SchemaDocument

end ParamSchema
