import Mathlib.Data.String.Basic

/-!
Contract: the order of texts and of their bytes.

Owns:
- the bytes of the UTF-8 form of a text;
- that texts are in order of their code points exactly when their bytes are in order.

Does not own: what is sorted in this order.
-/

namespace ParamSchema.Text

/-- The bytes of the UTF-8 form of a text. -/
def bytes (text : String) : List UInt8 :=
  text.toByteArray.data.toList

theorem bytes_eq_flatMap (text : String) :
    bytes text = text.toList.flatMap String.utf8EncodeChar := by
  unfold bytes
  rw [← String.utf8Encode_toList]
  exact List.toList_data_toByteArray

theorem byte_lt_iff {left right : Nat} (leftSmall : left < 256) (rightSmall : right < 256) :
    UInt8.ofNat left < UInt8.ofNat right ↔ left < right := by
  rw [UInt8.lt_iff_toNat_lt, UInt8.toNat_ofNat', UInt8.toNat_ofNat']
  omega

theorem byte_eq_iff {left right : Nat} (leftSmall : left < 256) (rightSmall : right < 256) :
    UInt8.ofNat left = UInt8.ofNat right ↔ left = right := by
  rw [← UInt8.toNat_inj, UInt8.toNat_ofNat', UInt8.toNat_ofNat']
  omega

/-- The bytes of a smaller character come first, whatever follows either character. -/
theorem encoded_lt {left right : Char} (less : left < right) (behindLeft behindRight : List UInt8) :
    String.utf8EncodeChar left ++ behindLeft < String.utf8EncodeChar right ++ behindRight := by
  have lessCode : left.val.toNat < right.val.toNat := less
  have inUnicode : right.val.toNat < 0x110000 := by
    rcases right.valid with low | ⟨-, high⟩
    · exact Nat.lt_trans low (by decide)
    · exact high
  unfold String.utf8EncodeChar
  dsimp only
  generalize left.val.toNat = leftCode at *
  generalize right.val.toNat = rightCode at *
  have digits : ∀ code < 0x110000, code / 4096 = code / 64 / 64 ∧
      code / 262144 % 8 = code / 64 / 64 / 64 := by
    omega
  obtain ⟨leftSquare, leftCube⟩ := digits leftCode (by omega)
  obtain ⟨rightSquare, rightCube⟩ := digits rightCode inUnicode
  rw [leftSquare, leftCube, rightSquare, rightCube]
  -- One case for each pair of lengths; a longer form starts with a larger byte.
  split_ifs <;>
    simp (disch := omega) only [List.cons_append, List.cons_lt_cons_iff, byte_lt_iff,
      byte_eq_iff] <;>
    omega

theorem encoded_lt_of_lt {left right : List Char} (less : left < right) :
    left.flatMap String.utf8EncodeChar < right.flatMap String.utf8EncodeChar := by
  induction left generalizing right with
  | nil =>
      cases right with
      | nil => exact absurd less (List.not_lt_nil _)
      | cons first rest =>
          obtain ⟨byte, bytes, encoded⟩ :=
            List.exists_cons_of_ne_nil (String.utf8EncodeChar_ne_nil (c := first))
          rw [List.flatMap_cons, encoded]
          exact List.nil_lt_cons _ _
  | cons first rest inductionHypothesis =>
      cases right with
      | nil => exact absurd less (List.not_lt_nil _)
      | cons other others =>
          rw [List.flatMap_cons, List.flatMap_cons]
          rcases List.cons_lt_cons_iff.mp less with firstLess | ⟨rfl, restLess⟩
          · exact encoded_lt firstLess _ _
          · exact List.append_left_lt (inductionHypothesis restLess)

/-- Texts are in order exactly when their bytes are. -/
theorem bytes_lt_iff {left right : String} : bytes left < bytes right ↔ left < right := by
  have forward : ∀ {left right : String}, left < right → bytes left < bytes right := by
    intro left right less
    rw [bytes_eq_flatMap, bytes_eq_flatMap]
    exact encoded_lt_of_lt (String.lt_iff_toList_lt.mp less)
  refine ⟨fun bytesLess => ?_, forward⟩
  rcases lt_trichotomy left right with less | same | greater
  · exact less
  · rw [same] at bytesLess
    exact absurd bytesLess (List.lt_irrefl _)
  · exact absurd bytesLess (List.lt_asymm (forward greater))

theorem bytes_le_iff {left right : String} : bytes left ≤ bytes right ↔ left ≤ right := by
  rw [← List.not_lt, bytes_lt_iff, not_lt]

end ParamSchema.Text
