/-!
# Sums

The zeros at which sums of lists begin: with them such a sum is the same one whatever algebra is in
view. Main statement: a sum of words is that of their values, modulo `2 ^ 64`.
-/

namespace FeedExplorer.Number

scoped instance (priority := 2000) natZero : Zero Nat := ⟨0⟩

scoped instance (priority := 2000) wordZero : Zero UInt64 := ⟨0⟩

theorem toNat_sum (words : List UInt64) :
    words.sum.toNat = (words.map (·.toNat)).sum % UInt64.size := by
  induction words with
  | nil => rfl
  | cons w words ih =>
    rw [List.sum_cons, UInt64.toNat_add, ih, List.map_cons, List.sum_cons]
    exact Nat.add_mod_mod _ _ _

end FeedExplorer.Number
