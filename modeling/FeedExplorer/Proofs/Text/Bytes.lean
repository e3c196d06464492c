import Mathlib.Data.List.Basic

/-!
# Bytes of texts

A byte array and its list are told by each other, and a text of plain characters has one byte for
each of them.
-/

namespace FeedExplorer.Text

theorem toList_loop_eq (bytes : ByteArray) (i : Nat) (taken : List UInt8) :
    ByteArray.toList.loop bytes i taken = taken.reverse ++ bytes.data.toList.drop i := by
  induction hleft : bytes.size - i generalizing i taken with
  | zero =>
    rw [ByteArray.toList.loop, if_neg (by omega), List.drop_eq_nil_of_le]
    · simp
    · change bytes.data.size ≤ i
      have : bytes.size = bytes.data.size := rfl
      omega
  | succ left ih =>
    have hi : i < bytes.data.toList.length := by
      change i < bytes.size
      omega
    have hget : bytes.get! i = bytes.data.toList[i] := by
      rw [Array.getElem_toList]
      exact getElem!_pos bytes.data i hi
    rw [ByteArray.toList.loop, if_pos (by omega), ih (i + 1) _ (by omega), hget,
      List.drop_eq_getElem_cons hi]
    simp

theorem toList_eq_data (bytes : ByteArray) : bytes.toList = bytes.data.toList := by
  rw [ByteArray.toList, toList_loop_eq]
  rfl

theorem mk_toArray_toList (bytes : ByteArray) : ByteArray.mk bytes.toList.toArray = bytes := by
  rw [toList_eq_data]

/-- The codes of characters, for those that have one byte. -/
def codes (cs : List Char) : List UInt8 :=
  cs.map fun c => UInt8.ofNat c.toNat

theorem flatMap_utf8EncodeChar {cs : List Char} (h : ∀ c ∈ cs, c.toNat < 128) :
    cs.flatMap String.utf8EncodeChar = codes cs := by
  induction cs with
  | nil => rfl
  | cons c cs ih =>
    obtain ⟨hc, hcs⟩ := List.forall_mem_cons.mp h
    have hsize : c.utf8Size = 1 := by
      rw [Char.utf8Size_eq_one_iff, UInt32.le_iff_toNat_le]
      exact Nat.le_of_lt_succ hc
    rw [List.flatMap_cons, String.utf8EncodeChar_eq_singleton hsize, ih hcs]
    rfl

theorem toList_toUTF8 {cs : List Char} (h : ∀ c ∈ cs, c.toNat < 128) :
    (String.ofList cs).toUTF8.toList = codes cs := by
  rw [String.toUTF8_eq_toByteArray, String.toByteArray_ofList, toList_eq_data, List.utf8Encode,
    List.data_toByteArray]
  exact flatMap_utf8EncodeChar h

end FeedExplorer.Text
