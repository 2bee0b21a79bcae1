import Mathlib.Data.List.Nodup
import Mathlib.Order.Lattice

/-!
Contract: lists that are sorted by a key.

Owns:
- comparisons that compare keys, and that sorting by them brings the keys in order;
- that sorting keeps the order of what has one key;
- that what is determined by its key is sorted alike, in whatever order it comes.

Does not own: what is sorted, and by which key.
-/

namespace ParamSchema

/-- A comparison that holds exactly when the keys are in order. -/
def ComparesBy {α κ : Type} [LE κ] (le : α → α → Bool) (key : α → κ) : Prop :=
  ∀ left right, le left right = true ↔ key left ≤ key right

namespace ComparesBy

variable {α κ : Type} [LinearOrder κ] {le : α → α → Bool} {key : α → κ} {entries others : List α}

theorem transitive (compares : ComparesBy le key) (first second third : α)
    (firstLe : le first second = true) (secondLe : le second third = true) :
    le first third = true :=
  (compares _ _).mpr (le_trans ((compares _ _).mp firstLe) ((compares _ _).mp secondLe))

theorem total (compares : ComparesBy le key) (left right : α) :
    (le left right || le right left) = true := by
  rw [Bool.or_eq_true, compares, compares]
  exact le_total _ _

theorem pairwise_mergeSort (compares : ComparesBy le key) (entries : List α) :
    (entries.mergeSort le).Pairwise fun earlier later => key earlier ≤ key later :=
  (List.pairwise_mergeSort compares.transitive compares.total entries).imp (compares _ _).mp

/-- What has one key is in order as it stands, so sorting leaves it as it stands. -/
theorem filter_mergeSort [BEq κ] [LawfulBEq κ] (compares : ComparesBy le key) (entries : List α)
    (wanted : κ) : ((entries.mergeSort le).filter fun entry => key entry == wanted) =
      entries.filter fun entry => key entry == wanted := by
  have ordered : (entries.filter fun entry => key entry == wanted).Pairwise
      fun earlier later => le earlier later = true := by
    refine List.pairwise_of_forall_mem_list fun earlier isEarlier later isLater => ?_
    have earlierKey : key earlier = wanted := eq_of_beq (List.mem_filter.mp isEarlier).2
    have laterKey : key later = wanted := eq_of_beq (List.mem_filter.mp isLater).2
    rw [compares, earlierKey, laterKey]
  have kept : (entries.filter fun entry => key entry == wanted).Sublist (entries.mergeSort le) :=
    List.sublist_mergeSort compares.transitive compares.total ordered List.filter_sublist
  have keptAlone := kept.filter fun entry => key entry == wanted
  rw [List.filter_filter] at keptAlone
  simp only [Bool.and_self] at keptAlone
  have sameLength := ((List.mergeSort_perm entries le).filter fun entry =>
    key entry == wanted).length_eq
  exact (keptAlone.eq_of_length sameLength.symm).symm

/-- Where entries are determined by their keys, their first order has no part in the sorted one. -/
theorem mergeSort_eq_of_perm (compares : ComparesBy le key) (same : others.Perm entries)
    (determined : ∀ left ∈ entries, ∀ right ∈ entries, key left = key right → left = right) :
    others.mergeSort le = entries.mergeSort le := by
  have reordered : (others.mergeSort le).Perm (entries.mergeSort le) :=
    (List.mergeSort_perm others le).trans (same.trans (List.mergeSort_perm entries le).symm)
  refine List.Perm.eq_of_pairwise ?antisymmetric (compares.pairwise_mergeSort others)
    (compares.pairwise_mergeSort entries) reordered
  intro left right isLeft isRight leftLe rightLe
  have leftHeld := (List.mergeSort_perm entries le).mem_iff.mp (reordered.mem_iff.mp isLeft)
  have rightHeld := (List.mergeSort_perm entries le).mem_iff.mp isRight
  exact determined left leftHeld right rightHeld (le_antisymm leftLe rightLe)

end ComparesBy

end ParamSchema
