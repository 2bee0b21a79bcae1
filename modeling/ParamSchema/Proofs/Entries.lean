import Mathlib.Data.List.Basic
import Mathlib.Data.String.Basic
import ParamSchema.Entries

/-!
Contract: entries in order of key.

Owns:
- what a look-up finds, and that under distinct keys it finds every entry that is held;
- that insertion keeps entries ascending, and adds an entry whose key is new;
- that entries with distinct keys are collected without loss, in whatever order they come.

Does not own: entries with one key, of which the later counts.
-/

namespace ParamSchema

/-! ## Look-up -/

section LookUp

variable {κ α : Type} [BEq κ] [LawfulBEq κ] {entries : List (κ × α)} {key : κ} {value : α}

theorem mem_of_lookup_eq_some (found : entries.lookup key = some value) :
    (key, value) ∈ entries := by
  obtain ⟨before, after, rfl, -⟩ := List.lookup_eq_some_iff.mp found
  exact List.mem_append_right before List.mem_cons_self

/-- Under distinct keys every entry that is held is the one found under its key. -/
theorem lookup_eq_some_iff_mem (distinct : (entries.map Prod.fst).Nodup) :
    entries.lookup key = some value ↔ (key, value) ∈ entries := by
  refine ⟨mem_of_lookup_eq_some, fun member => ?_⟩
  induction entries with
  | nil => cases member
  | cons entry rest inductionHypothesis =>
      obtain ⟨otherKey, other⟩ := entry
      rw [List.map_cons, List.nodup_cons] at distinct
      rw [List.lookup_cons]
      rcases List.mem_cons.mp member with isHead | inTail
      · cases isHead
        simp
      · have different : key ≠ otherKey := by
          intro same
          exact distinct.1 (List.mem_map.mpr ⟨(key, value), inTail, same⟩)
        simpa [beq_false_of_ne different] using inductionHypothesis distinct.2 inTail

end LookUp

end ParamSchema

/-! ## Order -/

namespace ParamSchema.Entries

variable {α : Type} {key : String} {value : α} {entries others : List (String × α)}

theorem Ascending.nodup (ascending : Ascending entries) : (entries.map Prod.fst).Nodup := by
  unfold Ascending at ascending
  rw [List.nodup_iff_pairwise_ne, List.pairwise_map]
  exact ascending.imp fun less => ne_of_lt less

/-- Inserting changes no key but adds the one inserted. -/
theorem mem_keys_insert {other : String} (entries : List (String × α)) :
    other ∈ (insert key value entries).map Prod.fst ↔
      other = key ∨ other ∈ entries.map Prod.fst := by
  induction entries with
  | nil => simp [insert]
  | cons entry rest inductionHypothesis =>
      unfold insert
      split
      · simp
      · split
        · next same => simp [same]
        · rw [List.map_cons, List.mem_cons, inductionHypothesis, List.map_cons, List.mem_cons]
          exact or_left_comm

theorem ascending_insert (ascending : Ascending entries) :
    Ascending (insert key value entries) := by
  unfold Ascending at *
  induction entries with
  | nil => exact List.pairwise_singleton _ _
  | cons entry rest inductionHypothesis =>
      obtain ⟨below, restAscending⟩ := List.pairwise_cons.mp ascending
      unfold insert
      split
      · next less =>
          refine List.pairwise_cons.mpr ⟨fun other member => ?_, ascending⟩
          rcases List.mem_cons.mp member with rfl | inRest
          · exact less
          · exact lt_trans less (below other inRest)
      · next notLess =>
          split
          · next same =>
              refine List.pairwise_cons.mpr ⟨fun other member => ?_, restAscending⟩
              rw [same]
              exact below other member
          · next different =>
              refine List.pairwise_cons.mpr
                ⟨fun other member => ?_, inductionHypothesis restAscending⟩
              have isKey := (mem_keys_insert rest).mp (List.mem_map_of_mem member)
              rcases isKey with isNew | isOld
              · rw [isNew]
                exact lt_of_le_of_ne (le_of_not_gt notLess) (Ne.symm different)
              · obtain ⟨old, held, sameKey⟩ := List.mem_map.mp isOld
                rw [← sameKey]
                exact below old held

/-- An entry whose key is new is added. -/
theorem perm_insert (absent : key ∉ entries.map Prod.fst) :
    (insert key value entries).Perm ((key, value) :: entries) := by
  induction entries with
  | nil => exact .refl _
  | cons entry rest inductionHypothesis =>
      rw [List.map_cons, List.mem_cons, not_or] at absent
      unfold insert
      split
      · exact .refl _
      · rw [if_neg absent.1]
        exact ((inductionHypothesis absent.2).cons entry).trans (.swap _ _ _)

theorem collected_perm {collected : List (String × α)}
    (distinct : ((collected ++ entries).map Prod.fst).Nodup) :
    (entries.foldl (fun collected entry => insert entry.1 entry.2 collected) collected).Perm
      (collected ++ entries) := by
  induction entries generalizing collected with
  | nil => rw [List.append_nil, List.foldl_nil]
  | cons entry rest inductionHypothesis =>
      have moved : (collected ++ entry :: rest).Perm (entry :: (collected ++ rest)) :=
        List.perm_middle
      have distinctMoved := (moved.map Prod.fst).nodup_iff.mp distinct
      have absent : entry.1 ∉ collected.map Prod.fst := by
        rw [List.map_cons, List.nodup_cons, List.map_append, List.mem_append, not_or]
          at distinctMoved
        exact distinctMoved.1.1
      have inserted :
          (insert entry.1 entry.2 collected ++ rest).Perm (entry :: (collected ++ rest)) :=
        (perm_insert absent).append_right rest
      rw [List.foldl_cons]
      refine (inductionHypothesis ?_).trans (inserted.trans moved.symm)
      exact (inserted.map Prod.fst).nodup_iff.mpr distinctMoved

theorem mem_of_mem_insert {entry : String × α} (held : entry ∈ insert key value entries) :
    entry = (key, value) ∨ entry ∈ entries := by
  induction entries with
  | nil => exact .inl (List.mem_singleton.mp held)
  | cons first rest inductionHypothesis =>
      unfold insert at held
      split at held
      · exact List.mem_cons.mp held
      · split at held
        · exact (List.mem_cons.mp held).imp_right (List.mem_cons_of_mem first)
        · rcases List.mem_cons.mp held with rfl | inRest
          · exact .inr List.mem_cons_self
          · exact (inductionHypothesis inRest).imp_right (List.mem_cons_of_mem first)

/-- Collecting adds no entries of its own. -/
theorem mem_of_mem_ofList {entry : String × α} (held : entry ∈ ofList entries) :
    entry ∈ entries := by
  suffices ∀ collected : List (String × α), entry ∈
      entries.foldl (fun collected entry => insert entry.1 entry.2 collected) collected →
      entry ∈ entries ∨ entry ∈ collected by
    simpa using this [] held
  clear held
  induction entries with
  | nil => exact fun collected held => .inr held
  | cons first rest inductionHypothesis =>
      intro collected held
      rcases inductionHypothesis _ held with inRest | inserted
      · exact .inl (List.mem_cons_of_mem first inRest)
      · rcases mem_of_mem_insert inserted with rfl | old
        · exact .inl List.mem_cons_self
        · exact .inr old

theorem ascending_collected {collected : List (String × α)} (ascending : Ascending collected) :
    Ascending
      (entries.foldl (fun collected entry => insert entry.1 entry.2 collected) collected) := by
  induction entries generalizing collected with
  | nil => exact ascending
  | cons entry rest inductionHypothesis => exact inductionHypothesis (ascending_insert ascending)

/-- Ascending entries are what they are collected to, in whatever order they come. -/
theorem ofList_eq_of_perm (ascending : Ascending entries) (same : others.Perm entries) :
    ofList others = entries := by
  have distinct : (others.map Prod.fst).Nodup := (same.map Prod.fst).nodup_iff.mpr ascending.nodup
  have collected : (ofList others).Perm ([] ++ others) := collected_perm distinct
  have inOrder : Ascending (ofList others) := ascending_collected List.Pairwise.nil
  refine List.Perm.eq_of_pairwise ?asymmetric inOrder ascending (collected.trans same)
  intro left right _ _ less greater
  exact absurd greater (not_lt_of_gt less)

end ParamSchema.Entries
