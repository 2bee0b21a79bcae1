import ParamSchema.Log.Basic
import ParamSchema.Proofs.Json.Reading
import ParamSchema.Proofs.Sorting
import ParamSchema.Proofs.Text.Bytes

/-!
Contract: what the line of a record tells.

Owns:
- the order of the fields of a record, which keeps the order of fields with one key;
- the members of a line, as a reader of JSON finds them;
- that a line tells its record and nothing else, whatever characters the fields have.

Does not own: which records are written.
-/

namespace ParamSchema

theorem Severity.name_injective : Function.Injective Severity.name := by
  intro severity other same
  cases severity <;> cases other <;> first | rfl | exact absurd same (by decide)

theorem Event.name_injective : Function.Injective Event.name := by
  intro event other same
  cases event <;> cases other <;> first | rfl | exact absurd same (by decide)

/-! ## Order of fields -/

/-- Fields in order of the bytes of their keys, in which fields of one key keep their order. -/
structure StablySorted (fields sorted : List (String × String)) : Prop where
  perm : sorted.Perm fields
  ascending : sorted.Pairwise fun earlier later => Text.bytes earlier.1 ≤ Text.bytes later.1
  stable : ∀ key, (sorted.filter fun field => field.1 == key) =
    fields.filter fun field => field.1 == key

/-! ## Objects of texts -/

namespace Json

/-- Texts under keys as members of an object. -/
def textMembers (members : List (String × String)) : List (String × Json) :=
  members.map fun member => (member.1, .string member.2)

/-- A text that is read as one object with these texts under these keys, in this order, and as
nothing else. The object that is held has them in order of key. -/
structure IsObjectOf (text : String) (members : List (String × String)) : Prop where
  drafted : Document.ofText text =
    ⟨.object (members.map fun member => (.ok member.1, .string (.ok member.2))) none, none⟩
  parsed : parse text = .ok (.object (Entries.ofList (textMembers members)))

theorem memberTexts_textMembers (members : List (String × String)) :
    memberTexts (textMembers members) =
      members.map fun member => memberText member.1 (quote member.2) := by
  induction members with
  | nil => rfl
  | cons member rest inductionHypothesis =>
      change _ :: memberTexts (textMembers rest) = _
      rw [inductionHypothesis]
      rfl

theorem ofMembers_textMembers (reading : Number → Except Fault Number)
    (members : List (String × String)) : Draft.ofMembers reading (textMembers members) =
      members.map fun member => (.ok member.1, .string (.ok member.2)) := by
  induction members with
  | nil => rfl
  | cons member rest inductionHypothesis =>
      change _ :: Draft.ofMembers reading (textMembers rest) = _
      rw [inductionHypothesis]
      rfl

theorem membersToJson_texts (levels : Nat) (members : List (String × String)) :
    Draft.membersToJson levels
        (members.map fun member => (.ok member.1, .string (.ok member.2))) =
      .ok (textMembers members) := by
  induction members with
  | nil => rfl
  | cons member rest inductionHypothesis =>
      rw [List.map_cons, Draft.membersToJson, inductionHypothesis]
      rfl

theorem toJson_texts (below : Nat) (members : List (String × String)) :
    (Draft.object (members.map fun member => (.ok member.1, .string (.ok member.2))) none).toJson
        (below + 1) = .ok (.object (Entries.ofList (textMembers members))) := by
  rw [Draft.toJson, membersToJson_texts]
  rfl

theorem isObjectOf_render (members : List (String × String)) :
    IsObjectOf (render (.object (textMembers members))) members := by
  have drafted := (ofText_render (.object (textMembers members))).1
  rw [Draft.ofJson, ofMembers_textMembers] at drafted
  refine ⟨drafted, ?_⟩
  have withinLimit : levelLimit = 126 + 1 := rfl
  rw [parse, drafted, Document.read, withinLimit, toJson_texts]
  rfl

theorem IsObjectOf.unique {text : String} {members others : List (String × String)}
    (isObject : IsObjectOf text members) (isOther : IsObjectOf text others) : members = others := by
  have same := isObject.drafted.symm.trans isOther.drafted
  simp only [Document.mk.injEq, Draft.object.injEq, and_true] at same
  refine List.map_injective_iff.mpr ?_ same
  rintro ⟨key, value⟩ ⟨otherKey, other⟩ sameMember
  simpa using sameMember

end Json

namespace Record

theorem comparesBy_key :
    ComparesBy (fun left right : String × String => decide (left.1 ≤ right.1)) Prod.fst :=
  fun _ _ => decide_eq_true_iff

theorem stablySorted_sortedFields (record : Record) :
    StablySorted record.fields record.sortedFields where
  perm := List.mergeSort_perm _ _
  ascending := (comparesBy_key.pairwise_mergeSort record.fields).imp Text.bytes_le_iff.mpr
  stable := comparesBy_key.filter_mergeSort record.fields

/-- Under distinct keys the order in which fields are given has no part in their order. -/
theorem sortedFields_eq_of_perm {record other : Record} (same : other.fields.Perm record.fields)
    (distinct : (record.fields.map Prod.fst).Nodup) : other.sortedFields = record.sortedFields :=
  comparesBy_key.mergeSort_eq_of_perm same fun _ isLeft _ isRight sameKey =>
    List.inj_on_of_nodup_map distinct isLeft isRight sameKey

/-! ## Lines -/

/-- The members of the line of a record, in the order in which they stand there. -/
def members (record : Record) : List (String × String) :=
  ("event", record.event.name) :: ("severity", record.severity.name) :: record.sortedFields

theorem line_eq (record : Record) :
    record.line = Json.render (.object (Json.textMembers record.members)) ++ "\n" := by
  rw [Json.render, Json.memberTexts_textMembers]
  rfl

/-- A line that is one object, which tells the event, the severity and the sorted fields of a record
in this order, and a newline at its end and nowhere else. -/
def Tells (line : String) (record : Record) : Prop :=
  ∃ text sorted, line = text ++ "\n" ∧ '\n' ∉ text.toList ∧ StablySorted record.fields sorted ∧
    Json.IsObjectOf text
      (("event", record.event.name) :: ("severity", record.severity.name) :: sorted)

theorem tells_line (record : Record) : Tells record.line record :=
  ⟨_, record.sortedFields, line_eq record, Json.newline_not_mem_render _,
    stablySorted_sortedFields record, Json.isObjectOf_render record.members⟩

theorem members_of_line {record other : Record} (same : other.line = record.line) :
    other.members = record.members := by
  rw [line_eq, line_eq, String.append_left_inj] at same
  have isObject := Json.isObjectOf_render other.members
  rw [same] at isObject
  exact isObject.unique (Json.isObjectOf_render record.members)

/-- Whatever characters its fields have, the line of a record tells the record and nothing else. No
record with another event, severity or fields has this line, and under distinct keys the order in
which the fields are given has no part in it. -/
theorem line_tells_record (record : Record) :
    Tells record.line record ∧
    (∀ other : Record, other.line = record.line →
      other.event = record.event ∧ other.severity = record.severity ∧
        other.sortedFields = record.sortedFields) ∧
    ∀ fields : List (String × String), fields.Perm record.fields →
      (record.fields.map Prod.fst).Nodup →
      ({ record with fields := fields } : Record).line = record.line := by
  refine ⟨tells_line record, ?alone, ?rearranged⟩
  case alone =>
    intro other same
    have sameMembers := members_of_line same
    simp only [members, List.cons.injEq, Prod.mk.injEq, true_and] at sameMembers
    exact ⟨Event.name_injective sameMembers.1, Severity.name_injective sameMembers.2.1,
      sameMembers.2.2⟩
  case rearranged =>
    intro fields same distinct
    have sameFields : ({ record with fields := fields } : Record).sortedFields =
        record.sortedFields := sortedFields_eq_of_perm same distinct
    rw [line_eq, line_eq, members, members, sameFields]

/-- A record whose fields try to end a literal, a line and the object. -/
def hostile : Record where
  severity := .warn
  event := .validationFailed
  fields := [("path", "a\"\x7d\n\x7b\"event\":\"SCHEMAS_LOADED"), ("\\", "\t\x01é"),
    ("event", "\\\"")]

theorem hostile_line_tells :
    Tells hostile.line hostile ∧
      ({ hostile with fields := hostile.fields.reverse } : Record).line = hostile.line := by
  obtain ⟨tells, -, rearranged⟩ := line_tells_record hostile
  exact ⟨tells, rearranged _ (List.reverse_perm _) (by decide)⟩

end Record

end ParamSchema
