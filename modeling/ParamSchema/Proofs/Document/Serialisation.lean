import Mathlib.Data.List.Nodup
import ParamSchema.Document.Encode
import ParamSchema.Proofs.Document.Inclusions

/-!
Contract: documents that are written and read again.

Owns:
- the fields that a definition writes, and that each of those it omits has the default that
  reading starts from;
- a definition of which only some fields have been read, and what reading one more adds;
- that a document is read back from its tree, whatever order the members of objects are in.

Does not own: the text of a tree, and documents that are written as lists of fields.
-/

namespace ParamSchema

open Json (Draft Fault ReadError SameElements SameMember)

namespace ParamDefinition

/-! ## Fields that are written -/

/-- The fields that are left out of the tree of a definition. -/
def omits (definition : ParamDefinition) : ParamField → Bool
  | .key => definition.key.isNone
  | .inclusion => definition.inclusion.isEmpty
  | .fields => definition.fields.isNone
  | .items => definition.items.isNone
  | .each => definition.each.isNone
  | _ => false

/-- The tree of one field, null standing for what is absent. -/
def fieldToJson (definition : ParamDefinition) : ParamField → Json
  | .key => (definition.key.map .string).getD .null
  | .type => .string definition.typeName
  | .optional => .boolean definition.optional
  | .allowNil => .boolean definition.allowNil
  | .allowBlank => .boolean definition.allowBlank
  | .coerce => .boolean definition.coerce
  | .allowNonScalars => .boolean definition.allowNonScalars
  | .inclusion => .array definition.inclusion
  | .fields => (listToJson definition.fields).getD .null
  | .items => (listToJson definition.items).getD .null
  | .each => (optionToJson definition.each).getD .null

def writes (definition : ParamDefinition) : List ParamField :=
  ParamField.all.filter fun field => !definition.omits field

/-- The tree of a definition has a member for each field that is written. -/
theorem toJson_eq_writes (definition : ParamDefinition) :
    definition.toJson =
      .object (definition.writes.map fun field => (field.name, definition.fieldToJson field)) := by
  obtain ⟨key, typeName, optional, allowNil, allowBlank, coerce, allowNonScalars, inclusion, fields,
    items, each⟩ := definition
  cases key <;> cases inclusion <;> cases fields <;> cases items <;> cases each <;> rfl

/-! ## Fields that are read -/

/-- A definition of which only some fields have been read, the others being as they start. -/
def restrict (definition : ParamDefinition) (read : List ParamField) : ParamDefinition where
  key := if .key ∈ read then definition.key else unread.key
  typeName := if .type ∈ read then definition.typeName else unread.typeName
  optional := if .optional ∈ read then definition.optional else unread.optional
  allowNil := if .allowNil ∈ read then definition.allowNil else unread.allowNil
  allowBlank := if .allowBlank ∈ read then definition.allowBlank else unread.allowBlank
  coerce := if .coerce ∈ read then definition.coerce else unread.coerce
  allowNonScalars :=
    if .allowNonScalars ∈ read then definition.allowNonScalars else unread.allowNonScalars
  inclusion := if .inclusion ∈ read then definition.inclusion else unread.inclusion
  fields := if .fields ∈ read then definition.fields else unread.fields
  items := if .items ∈ read then definition.items else unread.items
  each := if .each ∈ read then definition.each else unread.each

theorem restrict_nil (definition : ParamDefinition) : definition.restrict [] = unread := rfl

/-- The fields that are omitted need not be read: what they start from is what omission means. -/
theorem restrict_eq_self {definition : ParamDefinition} {read : List ParamField}
    (complete : ∀ field, definition.omits field = false → field ∈ read) :
    definition.restrict read = definition := by
  have unwritten {field : ParamField} (unseen : field ∉ read) : definition.omits field = true := by
    cases omitted : definition.omits field with
    | true => rfl
    | false => exact absurd (complete field omitted) unseen
  have always {field : ParamField} (never : definition.omits field = false) : field ∈ read :=
    complete field never
  obtain ⟨key, typeName, optional, allowNil, allowBlank, coerce, allowNonScalars, inclusion, fields,
    items, each⟩ := definition
  simp only [restrict, mk.injEq]
  refine ⟨?key, if_pos (always rfl), if_pos (always rfl), if_pos (always rfl), if_pos (always rfl),
    if_pos (always rfl), if_pos (always rfl), ?inclusion, ?fields, ?items, ?each⟩
  case key | fields | items | each =>
    split
    · rfl
    · next unseen => exact (Option.isNone_iff_eq_none.mp (unwritten unseen)).symm
  case inclusion =>
    split
    · rfl
    · next unseen => exact (List.isEmpty_iff.mp (unwritten unseen)).symm

/-! ## One field -/

/-- A definition is read back from every tree that is its own up to the order of members. -/
def Survives (definition : ParamDefinition) : Prop :=
  ∀ tree levels, definition.toJson.SameUpToOrder tree → tree.levels ≤ levels →
    decode levels (Draft.ofJson .ok tree) = .ok definition

theorem decodeAll_ofElements {definitions : List ParamDefinition} {elements : List Json}
    {levels : Nat} (survive : ∀ definition ∈ definitions, definition.Survives)
    (same : SameElements (allToJson definitions) elements)
    (within : Json.levelsElements elements ≤ levels) :
    decodeAll levels (Draft.ofElements .ok elements) = .ok definitions := by
  induction definitions generalizing elements with
  | nil =>
      cases same
      rfl
  | cons definition rest inductionHypothesis =>
      cases same with
      | cons first others =>
          rw [Json.levelsElements, Nat.max_le] at within
          rw [Draft.ofElements, decodeAll,
            survive definition List.mem_cons_self _ _ first within.1,
            inductionHypothesis (fun other member => survive other (List.mem_cons_of_mem _ member))
              others within.2]
          rfl

theorem decodeList_ofJson {definitions : List ParamDefinition} {tree : Json} {levels : Nat}
    (survive : ∀ definition ∈ definitions, definition.Survives)
    (same : (Json.array (allToJson definitions)).SameUpToOrder tree)
    (within : tree.levels ≤ levels) :
    (Draft.ofJson .ok tree).isNull = false ∧
      decodeList levels (Draft.ofJson .ok tree) = .ok definitions := by
  cases same with
  | array each =>
      cases levels with
      | zero => cases within
      | succ below =>
          rw [Draft.ofJson, decodeList,
            decodeAll_ofElements survive each (Nat.le_of_succ_le_succ within)]
          exact ⟨rfl, rfl⟩

theorem expectTrees_ofJson {sources : List Json} {tree : Json} {levels : Nat}
    (ordered : ∀ source ∈ sources, source.Ordered) (same : (Json.array sources).SameUpToOrder tree)
    (within : tree.levels ≤ levels) : (Draft.ofJson .ok tree).expectTrees levels = .ok sources := by
  cases same with
  | array each =>
      cases levels with
      | zero => cases within
      | succ below =>
          rw [Draft.ofJson, Draft.expectTrees,
            Json.elementsToJson_of_ordered ordered each (Nat.le_of_succ_le_succ within)]
          rfl

variable {definition : ParamDefinition} {field : ParamField} {tree : Json} {levels : Nat}

/-- Reading a field that was written adds it to those that have been read. -/
theorem assign_restrict (survive : ∀ child ∈ definition.beneath, child.Survives)
    (ordered : ∀ value ∈ definition.inclusion, value.Ordered)
    (written : definition.omits field = false)
    (same : (definition.fieldToJson field).SameUpToOrder tree) (within : tree.levels ≤ levels)
    (read : List ParamField) :
    assign levels field (Draft.ofJson .ok tree) (fun _ => decode levels (Draft.ofJson .ok tree))
      (fun _ => decodeList levels (Draft.ofJson .ok tree)) (definition.restrict read) =
      .ok (definition.restrict (field :: read)) := by
  cases field with
  | type | optional | allowNil | allowBlank | coerce | allowNonScalars =>
      cases same
      simp [assign, Draft.ofJson, Draft.expectString, Draft.expectBoolean, ReadError.lift, restrict,
        Except.map]
  | key =>
      cases hasKey : definition.key with
      | none => simp [omits, hasKey] at written
      | some key =>
          rw [fieldToJson, hasKey] at same
          cases same
          simp [assign, Draft.ofJson, Draft.expectOptionalString, Draft.isNull, Draft.expectString,
            ReadError.lift, restrict, hasKey, Except.map]
  | inclusion =>
      have read := expectTrees_ofJson ordered same within
      simp [assign, read, restrict, Except.map]
  | fields =>
      cases hasFields : definition.fields with
      | none => simp [omits, hasFields] at written
      | some definitions =>
          rw [fieldToJson, hasFields] at same
          obtain ⟨present, read⟩ := decodeList_ofJson (fun child member => survive child (by
            simp [beneath, hasFields, member])) same within
          simp [assign, read, present, restrict, hasFields, Except.map]
  | items =>
      cases hasItems : definition.items with
      | none => simp [omits, hasItems] at written
      | some definitions =>
          rw [fieldToJson, hasItems] at same
          obtain ⟨present, read⟩ := decodeList_ofJson (fun child member => survive child (by
            simp [beneath, hasItems, member])) same within
          simp [assign, read, present, restrict, hasItems, Except.map]
  | each =>
      cases hasEach : definition.each with
      | none => simp [omits, hasEach] at written
      | some template =>
          rw [fieldToJson, hasEach] at same
          have read := survive template (by simp [beneath, hasEach]) tree levels same within
          have present : (Draft.ofJson .ok tree).isNull = false := by
            cases template
            cases same
            rfl
          simp [assign, read, present, restrict, hasEach, Except.map]

/-! ## All fields -/

theorem ofName?_name (field : ParamField) : ParamField.ofName? field.name = some field := by
  cases field <;> rfl

/-- Fields that line up with members are read one after the other. -/
theorem decodeMembers_restrict {fields read : List ParamField} {members : List (String × Json)}
    (survive : ∀ child ∈ definition.beneath, child.Survives)
    (ordered : ∀ value ∈ definition.inclusion, value.Ordered)
    (written : ∀ field ∈ fields, definition.omits field = false)
    (lined : List.Forall₂ (fun field member =>
      SameMember (field.name, definition.fieldToJson field) member) fields members)
    (within : Json.levelsMembers members ≤ levels) (distinct : (fields.reverse ++ read).Nodup) :
    decodeMembers levels read (definition.restrict read) (Draft.ofMembers .ok members) =
      .ok (fields.reverse ++ read, definition.restrict (fields.reverse ++ read)) := by
  induction lined generalizing read with
  | nil => rfl
  | @cons field member fields members first rest inductionHypothesis =>
      obtain ⟨name, tree⟩ := member
      obtain ⟨sameName, same⟩ := first
      dsimp only at sameName same
      rw [Json.levelsMembers, Nat.max_le] at within
      rw [List.reverse_cons, List.append_assoc, List.singleton_append] at distinct ⊢
      have fresh : read.contains field = false := by
        have behind := (List.nodup_cons.mp (List.nodup_append.mp distinct).2.1).1
        simpa using behind
      have assigned := assign_restrict survive ordered (written field List.mem_cons_self) same
        within.1 read
      have others := inductionHypothesis
        (fun other member => written other (List.mem_cons_of_mem _ member)) within.2 distinct
      rw [Draft.ofMembers, decodeMembers, ← sameName]
      simp only [ReadError.lift, bind, Except.bind, ofName?_name, fresh, assigned]
      exact others

/-- The tree of a definition is read back as that definition. -/
theorem survives (definition : ParamDefinition) (ordered : definition.InclusionsOrdered) :
    definition.Survives := by
  induction definition using beneath_induction with
  | step definition inductionHypothesis =>
      obtain ⟨inclusion, beneath⟩ := inclusionsOrdered_iff_beneath.mp ordered
      have survive : ∀ child ∈ definition.beneath, child.Survives := fun child below =>
        inductionHypothesis child below (beneath child below)
      intro tree levels same within
      rw [toJson_eq_writes] at same
      obtain ⟨fields, members, rfl, order, lined⟩ := same.lined_up
      cases levels with
      | zero => cases within
      | succ below =>
          have isWritten (field : ParamField) :
              field ∈ fields ↔ definition.omits field = false := by
            rw [order.mem_iff, writes, List.mem_filter, Bool.not_eq_true']
            exact and_iff_right (by cases field <;> decide)
          have distinct : (fields.reverse ++ []).Nodup := by
            rw [List.append_nil, List.nodup_reverse, order.nodup_iff]
            exact List.Nodup.filter _ (by decide)
          have read := decodeMembers_restrict survive inclusion
            (fun field => (isWritten field).mp) lined (Nat.le_of_succ_le_succ within) distinct
          have complete : definition.restrict (fields.reverse ++ []) = definition :=
            restrict_eq_self fun field written => by
              simpa using (isWritten field).mpr written
          have typed : (fields.reverse ++ []).contains ParamField.type = true := by
            simpa using (isWritten .type).mpr rfl
          rw [complete, restrict_nil] at read
          rw [Draft.ofJson, decode, read]
          simp only [bind, Except.bind, ReadError.closed, typed, if_true]
          rfl

end ParamDefinition

namespace SchemaDocument

variable {document : SchemaDocument} {tree : Json} {levels : Nat}

/-- The tree of one field; every field of a document is written. -/
def fieldToJson (document : SchemaDocument) : DocumentField → Json
  | .name => .string document.name
  | .action => .string document.action
  | .strict => .boolean document.strict
  | .params => document.params.toJson

theorem toJson_eq_all (document : SchemaDocument) :
    document.toJson =
      .object (DocumentField.all.map fun field => (field.label, document.fieldToJson field)) := rfl

/-- What is known of a document once some fields have been read. -/
def restrict (document : SchemaDocument) (read : List DocumentField) : Partial where
  name := if .name ∈ read then some document.name else none
  action := if .action ∈ read then some document.action else none
  strict := if .strict ∈ read then some document.strict else none
  params := if .params ∈ read then some document.params else none

theorem has_restrict (document : SchemaDocument) (read : List DocumentField)
    (field : DocumentField) : (document.restrict read).has field = decide (field ∈ read) := by
  cases field <;> simp only [restrict, Partial.has] <;> split <;> simp [*]

theorem assign_restrict (survives : document.params.Survives) {field : DocumentField}
    (same : (document.fieldToJson field).SameUpToOrder tree) (within : tree.levels ≤ levels)
    (read : List DocumentField) :
    (document.restrict read).assign levels (Draft.ofJson .ok tree) field =
      .ok (document.restrict (field :: read)) := by
  cases field with
  | name | action | strict =>
      cases same
      simp [Partial.assign, Draft.ofJson, Draft.expectString, Draft.expectBoolean, ReadError.lift,
        restrict, Except.map]
  | params =>
      simp [Partial.assign, survives tree levels same within, restrict, Except.map]

theorem ofName?_label (field : DocumentField) :
    DocumentField.ofName? field.label = some field := by
  cases field <;> rfl

/-- Fields that line up with members are read one after the other. -/
theorem decodeMembers_restrict {fields read : List DocumentField} {members : List (String × Json)}
    (survives : document.params.Survives)
    (lined : List.Forall₂ (fun field member =>
      SameMember (field.label, document.fieldToJson field) member) fields members)
    (within : Json.levelsMembers members ≤ levels) (distinct : (fields.reverse ++ read).Nodup) :
    decodeMembers levels (document.restrict read) (Draft.ofMembers .ok members) =
      .ok (document.restrict (fields.reverse ++ read)) := by
  induction lined generalizing read with
  | nil => rfl
  | @cons field member fields members first rest inductionHypothesis =>
      obtain ⟨name, tree⟩ := member
      obtain ⟨sameName, same⟩ := first
      dsimp only at sameName same
      rw [Json.levelsMembers, Nat.max_le] at within
      rw [List.reverse_cons, List.append_assoc, List.singleton_append] at distinct ⊢
      have fresh : (document.restrict read).has field = false := by
        have behind := (List.nodup_cons.mp (List.nodup_append.mp distinct).2.1).1
        simpa [has_restrict] using behind
      have assigned := assign_restrict survives same within.1 read
      rw [Draft.ofMembers, decodeMembers, ← sameName]
      simp only [ReadError.lift, bind, Except.bind, ofName?_label, fresh, assigned]
      exact inductionHypothesis within.2 distinct

/-- A document is read back from its tree: from every tree that has the same members at every
place, in whatever order, by every reader that goes as deep as the tree. That the objects of
inclusion lists have their members in order of key is how they are held. -/
theorem decode_toJson (document : SchemaDocument) (ordered : document.params.InclusionsOrdered)
    (same : document.toJson.SameUpToOrder tree) (within : tree.levels ≤ levels) :
    decode levels (Draft.ofJson .ok tree) = .ok document := by
  rw [toJson_eq_all] at same
  obtain ⟨fields, members, rfl, order, lined⟩ := same.lined_up
  cases levels with
  | zero => cases within
  | succ below =>
      have isRead (field : DocumentField) : field ∈ fields.reverse ++ [] := by
        rw [List.append_nil, List.mem_reverse, order.mem_iff]
        cases field <;> decide
      have distinct : (fields.reverse ++ []).Nodup := by
        rw [List.append_nil, List.nodup_reverse, order.nodup_iff]
        decide
      have read := decodeMembers_restrict (document.params.survives ordered) lined
        (Nat.le_of_succ_le_succ within) distinct
      have complete : document.restrict (fields.reverse ++ []) =
          ⟨some document.name, some document.action, some document.strict,
            some document.params⟩ := by
        simp only [restrict, isRead, if_true]
      rw [complete] at read
      rw [Draft.ofJson, decode, show ({} : Partial) = document.restrict [] from rfl, read]
      rfl

/-- A document with every kind of nesting, a list of fields that is present but empty, and an
object to choose. -/
def orders : SchemaDocument where
  name := "orders"
  params := {
    typeName := "object"
    fields := some [
      { key := some "lines", typeName := "array",
        each := some { typeName := "hash", fields := some [] } },
      { key := some "range", typeName := "array", items := some [
          { typeName := "object", allowBlank := false,
            inclusion := [.object [("from", .null), ("to", .boolean true)]] }] }] }

theorem orders_decode_toJson :
    ∃ members : List (String × Json), orders.toJson = .object members ∧
      decode 127 (Draft.ofJson .ok (.object members.reverse)) = .ok orders := by
  refine ⟨_, rfl, decode_toJson orders ?ordered ?same ?within⟩
  case ordered =>
    have chosen : (Json.object [("from", .null), ("to", .boolean true)]).Ordered :=
      .object (by unfold Entries.Ascending; decide)
        (by simp [Json.Ordered.null, Json.Ordered.boolean])
    simp [orders, ParamDefinition.InclusionsOrdered, ParamDefinition.preorder_eq,
      ParamDefinition.beneath, chosen]
  case same =>
    exact .object (List.reverse_perm _).symm
      (Json.sameMembers_iff.mpr (List.forall₂_same.mpr fun member _ => ⟨rfl, .refl member.2⟩))
  case within => decide

end SchemaDocument

end ParamSchema
