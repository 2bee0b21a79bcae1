import Mathlib.Data.List.Forall2
import Mathlib.Data.List.Perm.Basic
import ParamSchema.Json.Decode
import ParamSchema.Proofs.Entries
import ParamSchema.Proofs.Outcome

/-!
Contract: trees as they are held, written and read.

Owns:
- the parts and the levels of a tree, and the induction over parts;
- trees with the members of every object in order of key, as data holds them;
- trees that differ in the order of members only;
- the draft of a tree, and that it is read as the tree whose members it may list in any order.

Does not own: the text of a tree, and the structures that documents consist of.
-/

namespace ParamSchema.Json

/-! ## Parts -/

/-- The elements of an array, or the values of the members of an object. -/
def parts : Json → List Json
  | .array elements => elements
  | .object members => members.map Prod.snd
  | _ => []

theorem sizeOf_lt_of_mem_parts {tree part : Json} (isPart : part ∈ tree.parts) :
    sizeOf part < sizeOf tree := by
  cases tree with
  | null | boolean | number | string => cases isPart
  | array elements =>
      rw [parts] at isPart
      have smaller := List.sizeOf_lt_of_mem isPart
      rw [Json.array.sizeOf_spec]
      omega
  | object members =>
      obtain ⟨⟨key, value⟩, held, rfl⟩ := List.mem_map.mp isPart
      have smaller := List.sizeOf_lt_of_mem held
      rw [Json.object.sizeOf_spec]
      rw [Prod.mk.sizeOf_spec] at smaller
      dsimp only
      omega

/-- What holds of a tree once it holds of its parts holds of every tree. -/
theorem parts_induction {Holds : Json → Prop}
    (step : ∀ tree : Json, (∀ part ∈ tree.parts, Holds part) → Holds tree) (tree : Json) :
    Holds tree :=
  step tree fun part _ => parts_induction step part
termination_by tree
decreasing_by exact sizeOf_lt_of_mem_parts ‹_›

mutual

/-- The levels of containers in a tree, its own counted. -/
def levels : Json → Nat
  | .array elements => levelsElements elements + 1
  | .object members => levelsMembers members + 1
  | _ => 0

def levelsElements : List Json → Nat
  | [] => 0
  | element :: rest => max element.levels (levelsElements rest)

def levelsMembers : List (String × Json) → Nat
  | [] => 0
  | (_, value) :: rest => max value.levels (levelsMembers rest)

end

/-! ## Order -/

/-- Held in memory, an object has its members in order of key, so no key comes twice. -/
inductive Ordered : Json → Prop where
  | null : Ordered .null
  | boolean (value : Bool) : Ordered (.boolean value)
  | number (value : Number) : Ordered (.number value)
  | string (value : String) : Ordered (.string value)
  | array {elements : List Json} (each : ∀ element ∈ elements, Ordered element) :
      Ordered (.array elements)
  | object {members : List (String × Json)} (ascending : Entries.Ascending members)
      (each : ∀ member ∈ members, Ordered member.2) : Ordered (.object members)

mutual

/-- Trees that differ at most in the order in which objects list their members. -/
inductive SameUpToOrder : Json → Json → Prop where
  | null : SameUpToOrder .null .null
  | boolean (value : Bool) : SameUpToOrder (.boolean value) (.boolean value)
  | number (value : Number) : SameUpToOrder (.number value) (.number value)
  | string (value : String) : SameUpToOrder (.string value) (.string value)
  | array {lefts rights : List Json} (each : SameElements lefts rights) :
      SameUpToOrder (.array lefts) (.array rights)
  | object {lefts arranged rights : List (String × Json)} (order : lefts.Perm arranged)
      (each : SameMembers arranged rights) : SameUpToOrder (.object lefts) (.object rights)

inductive SameElements : List Json → List Json → Prop where
  | nil : SameElements [] []
  | cons {left right : Json} {lefts rights : List Json} (first : SameUpToOrder left right)
      (rest : SameElements lefts rights) : SameElements (left :: lefts) (right :: rights)

inductive SameMembers : List (String × Json) → List (String × Json) → Prop where
  | nil : SameMembers [] []
  | cons {key : String} {left right : Json} {lefts rights : List (String × Json)}
      (first : SameUpToOrder left right) (rest : SameMembers lefts rights) :
      SameMembers ((key, left) :: lefts) ((key, right) :: rights)

end

/-- Members with one key and values that are the same up to order. -/
def SameMember (left right : String × Json) : Prop :=
  left.1 = right.1 ∧ left.2.SameUpToOrder right.2

theorem sameElements_iff {lefts rights : List Json} :
    SameElements lefts rights ↔ List.Forall₂ SameUpToOrder lefts rights := by
  induction lefts generalizing rights with
  | nil =>
      constructor
      · rintro ⟨⟩
        exact .nil
      · rintro ⟨⟩
        exact .nil
  | cons left lefts inductionHypothesis =>
      constructor
      · rintro ⟨⟩
        exact .cons ‹_› (inductionHypothesis.mp ‹_›)
      · rintro ⟨⟩
        exact .cons ‹_› (inductionHypothesis.mpr ‹_›)

theorem sameMembers_iff {lefts rights : List (String × Json)} :
    SameMembers lefts rights ↔ List.Forall₂ SameMember lefts rights := by
  induction lefts generalizing rights with
  | nil =>
      constructor
      · rintro ⟨⟩
        exact .nil
      · rintro ⟨⟩
        exact .nil
  | cons left lefts inductionHypothesis =>
      constructor
      · rintro ⟨⟩
        exact .cons ⟨rfl, ‹_›⟩ (inductionHypothesis.mp ‹_›)
      · rintro (_ | ⟨same, rest⟩)
        obtain ⟨key, value⟩ := left
        rename_i right _
        obtain ⟨otherKey, other⟩ := right
        cases same.1
        exact .cons same.2 (inductionHypothesis.mpr rest)

/-- The members of an object put in the order of one that is the same up to order. -/
theorem SameUpToOrder.lined_up {α : Type} {fields : List α} {member : α → String × Json}
    {tree : Json} (same : (Json.object (fields.map member)).SameUpToOrder tree) :
    ∃ arranged members, tree = .object members ∧ arranged.Perm fields ∧
      List.Forall₂ (fun field other => SameMember (member field) other) arranged members := by
  cases same with
  | @object _ arranged members order each =>
      obtain ⟨fields, rfl, moved⟩ := (List.eq_map_comp_perm _).ge _ _ order.symm
      exact ⟨fields, members, rfl, moved, List.forall₂_map_left_iff.mp (sameMembers_iff.mp each)⟩

/-- Lists that match match in a second way that follows for what is in the first list. -/
theorem forall₂_of_mem {α β : Type} {first second : α → β → Prop} {lefts : List α} {rights : List β}
    (matched : List.Forall₂ first lefts rights)
    (implied : ∀ left ∈ lefts, ∀ right, first left right → second left right) :
    List.Forall₂ second lefts rights :=
  ((List.forall₂_and_left _ _).mpr ⟨fun _ held => held, matched⟩).imp
    fun left right known => implied left known.1 right known.2

theorem SameUpToOrder.refl (tree : Json) : tree.SameUpToOrder tree := by
  induction tree using parts_induction with
  | step tree inductionHypothesis =>
      cases tree with
      | null => exact .null
      | boolean value => exact .boolean value
      | number value => exact .number value
      | string value => exact .string value
      | array elements =>
          exact .array (sameElements_iff.mpr (List.forall₂_same.mpr inductionHypothesis))
      | object members =>
          refine .object (.refl members) (sameMembers_iff.mpr (List.forall₂_same.mpr ?_))
          intro member held
          exact ⟨rfl, inductionHypothesis member.2 (List.mem_map_of_mem held)⟩

/-! ## Drafts -/

mutual

/-- The draft of a tree that is written as it is, each number being read anew. -/
def Draft.ofJson (reading : Number → Except Fault Number) : Json → Draft
  | .null => .scalar .null
  | .boolean value => .scalar (.boolean value)
  | .number value => .scalar (.number (reading value))
  | .string value => .string (.ok value)
  | .array elements => .array (Draft.ofElements reading elements) none
  | .object members => .object (Draft.ofMembers reading members) none

def Draft.ofElements (reading : Number → Except Fault Number) : List Json → List Draft
  | [] => []
  | element :: rest => Draft.ofJson reading element :: Draft.ofElements reading rest

def Draft.ofMembers (reading : Number → Except Fault Number) :
    List (String × Json) → List (Except Fault String × Draft)
  | [] => []
  | (key, value) :: rest => (.ok key, Draft.ofJson reading value) :: Draft.ofMembers reading rest

end

/-- What it means that a draft is read as a tree, and is not too deep for that. -/
def ReadsAs (tree source : Json) : Prop :=
  ∀ levels, tree.levels ≤ levels → (Draft.ofJson .ok tree).toJson levels = .ok source

theorem elementsToJson_ofElements {sources elements : List Json} {levels : Nat}
    (each : List.Forall₂ (fun source element => element.ReadsAs source) sources elements)
    (within : levelsElements elements ≤ levels) :
    Draft.elementsToJson levels (Draft.ofElements .ok elements) = .ok sources := by
  induction each with
  | nil => rfl
  | cons first rest inductionHypothesis =>
      rw [levelsElements, Nat.max_le] at within
      rw [Draft.ofElements, Draft.elementsToJson, first levels within.1,
        inductionHypothesis within.2]
      rfl

theorem membersToJson_ofMembers {sources members : List (String × Json)} {levels : Nat}
    (each : List.Forall₂ (fun source member => source.1 = member.1 ∧ member.2.ReadsAs source.2)
      sources members)
    (within : levelsMembers members ≤ levels) :
    Draft.membersToJson levels (Draft.ofMembers .ok members) = .ok sources := by
  induction each with
  | nil => rfl
  | @cons source member _ _ first rest inductionHypothesis =>
      obtain ⟨sourceKey, source⟩ := source
      obtain ⟨key, value⟩ := member
      obtain ⟨sameKey, reads⟩ := first
      dsimp only at sameKey reads
      rw [levelsMembers, Nat.max_le] at within
      rw [Draft.ofMembers, Draft.membersToJson, reads levels within.1,
        inductionHypothesis within.2, sameKey]
      rfl

/-- A tree is read back from any tree that is the same up to order: the members of its objects are
put in order again. -/
theorem Ordered.readsAs {source tree : Json} (ordered : source.Ordered)
    (same : source.SameUpToOrder tree) : tree.ReadsAs source := by
  induction source using parts_induction generalizing tree with
  | step source inductionHypothesis =>
      intro levels within
      cases same with
      | null => rfl
      | boolean value => rfl
      | number value => rfl
      | string value => rfl
      | @array sources elements each =>
          cases ordered with
          | array ordered =>
              have read : List.Forall₂ (fun source element => element.ReadsAs source)
                  sources elements :=
                forall₂_of_mem (sameElements_iff.mp each) fun source held element same =>
                  inductionHypothesis source held (ordered source held) same
              cases levels with
              | zero => cases within
              | succ below =>
                  rw [Draft.ofJson, Draft.toJson,
                    elementsToJson_ofElements read (Nat.le_of_succ_le_succ within)]
                  rfl
      | @object sources arranged members order each =>
          cases ordered with
          | object ascending ordered =>
              have read : List.Forall₂ (fun source member => source.1 = member.1 ∧
                  member.2.ReadsAs source.2) arranged members :=
                forall₂_of_mem (sameMembers_iff.mp each) fun source held member same =>
                  have within := order.mem_iff.mpr held
                  ⟨same.1, inductionHypothesis source.2 (List.mem_map_of_mem within)
                    (ordered source within) same.2⟩
              cases levels with
              | zero => cases within
              | succ below =>
                  rw [Draft.ofJson, Draft.toJson,
                    membersToJson_ofMembers read (Nat.le_of_succ_le_succ within)]
                  change Except.ok (Json.object (Entries.ofList arranged)) = _
                  rw [Entries.ofList_eq_of_perm ascending order.symm]

theorem elementsToJson_of_ordered {sources elements : List Json} {levels : Nat}
    (ordered : ∀ source ∈ sources, source.Ordered) (same : SameElements sources elements)
    (within : levelsElements elements ≤ levels) :
    Draft.elementsToJson levels (Draft.ofElements .ok elements) = .ok sources :=
  elementsToJson_ofElements (forall₂_of_mem (sameElements_iff.mp same)
    fun source held _ same => (ordered source held).readsAs same) within

/-! ## Trees that are read -/

mutual

/-- Whatever draft a tree is read from, its objects come in order of key. -/
theorem ordered_of_toJson : ∀ (draft : Draft) {levels : Nat} {tree : Json},
    draft.toJson levels = .ok tree → tree.Ordered
  | .scalar .null, _, _, read => by
      cases read
      exact .null
  | .scalar (.boolean value), _, _, read => by
      cases read
      exact .boolean value
  | .scalar (.number (.ok value)), _, _, read => by
      cases read
      exact .number value
  | .string (.ok value), _, _, read => by
      cases read
      exact .string value
  | .scalar (.number (.error _)), _, _, read | .string (.error _), _, _, read
  | .fault _, _, _, read | .array _ _, 0, _, read | .object _ _, 0, _, read => by cases read
  | .array elements stop, below + 1, tree, read => by
      obtain ⟨trees, held, closed⟩ := Except.bind_eq_ok_iff.mp read
      cases stop <;> cases closed
      exact .array (ordered_of_elementsToJson elements held)
  | .object members stop, below + 1, tree, read => by
      obtain ⟨trees, held, closed⟩ := Except.bind_eq_ok_iff.mp read
      cases stop <;> cases closed
      refine .object (Entries.ascending_collected List.Pairwise.nil) fun member isMember => ?_
      exact ordered_of_membersToJson members held member (Entries.mem_of_mem_ofList isMember)

theorem ordered_of_elementsToJson : ∀ (elements : List Draft) {levels : Nat} {trees : List Json},
    Draft.elementsToJson levels elements = .ok trees → ∀ tree ∈ trees, tree.Ordered
  | [], _, _, read => by
      cases read
      simp
  | element :: rest, levels, trees, read => by
      obtain ⟨tree, first, read⟩ := Except.bind_eq_ok_iff.mp read
      obtain ⟨trees, others, same⟩ := Except.bind_eq_ok_iff.mp read
      cases same
      exact List.forall_mem_cons.mpr
        ⟨ordered_of_toJson element first, ordered_of_elementsToJson rest others⟩

theorem ordered_of_membersToJson : ∀ (members : List (Except Fault String × Draft)) {levels : Nat}
    {trees : List (String × Json)}, Draft.membersToJson levels members = .ok trees →
      ∀ member ∈ trees, member.2.Ordered
  | [], _, _, read => by
      cases read
      simp
  | (key, value) :: rest, levels, trees, read => by
      obtain ⟨name, -, read⟩ := Except.bind_eq_ok_iff.mp read
      obtain ⟨tree, first, read⟩ := Except.bind_eq_ok_iff.mp read
      obtain ⟨trees, others, same⟩ := Except.bind_eq_ok_iff.mp read
      cases same
      exact List.forall_mem_cons.mpr
        ⟨ordered_of_toJson value first, ordered_of_membersToJson rest others⟩

end

end ParamSchema.Json
