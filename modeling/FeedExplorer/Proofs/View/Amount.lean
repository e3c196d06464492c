import FeedExplorer.Proofs.Number.Numeral
import FeedExplorer.View.Field

/-!
# Amounts

What the text of an amount denotes. Main statement: the text of a finite amount is a numeral of
eight places at most, whose value is within half a unit of the last place of the amount, and equal
to it if the amount is an integer.
-/

namespace FeedExplorer.View

open Number (Numeral behindPoint digitsOf minus padded signed significant)

/-! ## Trimming -/

theorem trimFraction_eq (cs : List Char) :
    trimFraction cs = (cs.rdropWhile (· == '0')).rdropWhile (· == '.') := by
  rw [trimFraction, List.rdropWhile, List.rdropWhile, List.reverse_reverse]

/-- Only what is behind the point is trimmed, and a point that is left at the end. -/
theorem trimFraction_of_point {whole fraction : List Char} (hwhole : '.' ∉ whole)
    (hfraction : '.' ∉ fraction) :
    trimFraction (whole ++ '.' :: fraction) =
      whole ++ behindPoint (fraction.rdropWhile (· == '0')) := by
  rw [trimFraction_eq]
  induction fraction using List.reverseRecOn with
  | nil =>
    have hself : whole.rdropWhile (· == '.') = whole := by
      rw [List.rdropWhile_eq_self_iff]
      intro hne hlast
      exact hwhole (beq_iff_eq.mp hlast ▸ List.getLast_mem hne)
    rw [List.rdropWhile_concat_neg _ _ _ (by decide), List.rdropWhile_concat_pos _ _ _ rfl, hself,
      List.rdropWhile_nil, behindPoint, if_pos rfl, List.append_nil]
  | append_singleton ds c ih =>
    obtain ⟨hds, hc⟩ := not_or.mp (mt List.mem_append.mpr hfraction)
    have hsplit : whole ++ '.' :: (ds ++ [c]) = whole ++ '.' :: ds ++ [c] := by simp
    rw [hsplit]
    by_cases hzero : c = '0'
    · rw [List.rdropWhile_concat_pos (· == '0') _ c (beq_iff_eq.mpr hzero),
        List.rdropWhile_concat_pos (· == '0') _ c (beq_iff_eq.mpr hzero), ih hds]
    · have hkept : ¬ (c == '0') = true := fun h => hzero (beq_iff_eq.mp h)
      have hpoint : ¬ (c == '.') = true := fun h =>
        hc (List.mem_singleton.mpr (beq_iff_eq.mp h).symm)
      have hne : ds ++ [c] ≠ [] := List.append_ne_nil_of_right_ne_nil ds (List.cons_ne_nil c [])
      rw [List.rdropWhile_concat_neg (· == '0') _ c hkept,
        List.rdropWhile_concat_neg (· == '.') _ c hpoint,
        List.rdropWhile_concat_neg (· == '0') _ c hkept, behindPoint, if_neg hne, hsplit]

/-- What is left of a rounded text is the numeral of the rounded number. -/
theorem trimFraction_places {places : Nat} (hplaces : 0 < places) (x : Binary64) :
    trimFraction (Number.places places x).toList =
      (Numeral.ofDecimal hplaces x.negative (x.units places)).chars := by
  have htext : (Number.places places x).toList =
      (minus x.negative ++ digitsOf (x.units places / 10 ^ places)) ++
        '.' :: padded places (x.units places % 10 ^ places) := by
    rw [Number.places, String.toList_ofList, if_neg hplaces.ne']
    rfl
  have hpoint : ¬ '.'.isDigit = true := by decide
  rw [htext, trimFraction_of_point, List.append_assoc]
  · rfl
  · refine List.not_mem_append ?_ fun h => hpoint (Number.isDigit_of_mem_digitsOf h)
    cases x.negative <;> simp [minus]
  · exact fun h => hpoint (Number.isDigit_of_mem_padded h)

/-! ## The value of an amount -/

/-- An amount is written as a numeral. -/
theorem exists_amount_eq {x : Binary64} (hfinite : x.IsFinite) :
    ∃ n : Numeral 8, amount x = n.text ∧ |n.value - x.toRat| ≤ 5 / 10 ^ 9 ∧
      ((∃ k : ℤ, x.toRat = k) → n.value = x.toRat) := by
  by_cases hshort : x.isIntegral ∧ x.magnitudeBelow 1000000000000000
  · have hplaces : 0 < 8 := by decide
    have hvalue : (Numeral.ofInteger hplaces x.truncate).value = x.toRat := by
      rw [Numeral.value_ofInteger, Binary64.toRat_of_isIntegral hshort.1]
    refine ⟨Numeral.ofInteger hplaces x.truncate, ?_, ?_, fun _ => hvalue⟩
    · rw [amount, if_pos ⟨hfinite, hshort⟩, Number.integer_eq_text hplaces]
    · rw [hvalue, sub_self, abs_zero]
      norm_num
  · refine ⟨Numeral.ofDecimal (by decide) x.negative (x.units 8), ?_, ?_, ?_⟩
    · rw [amount, if_neg fun h => hshort h.2, Numeral.text, trimFraction_places (by decide)]
    · rw [Numeral.value_ofDecimal]
      refine (x.abs_units_sub_le 8).trans (le_of_eq ?_)
      norm_num
    · rintro ⟨k, hk⟩
      rw [Numeral.value_ofDecimal]
      exact Binary64.units_of_toRat 8 hk

/-- The text of a finite amount is that of a single numeral. It differs from the amount by half a
unit of the eighth place at most, and not at all from an integer. -/
theorem amount_denotes (x : Binary64) (hfinite : x.IsFinite) :
    ∃ n : Numeral 8, (∀ m : Numeral 8, amount x = m.text ↔ m = n) ∧
      |n.value - x.toRat| ≤ 5 / 10 ^ 9 ∧ ((∃ k : ℤ, x.toRat = k) → n.value = x.toRat) := by
  obtain ⟨n, htext, hvalue⟩ := exists_amount_eq hfinite
  refine ⟨n, fun m => ?_, hvalue⟩
  rw [htext, eq_comm]
  exact Numeral.text_injective.eq_iff

/-- An integer that is not written by its digits alone: what is behind its point is trimmed. -/
theorem amount_of_long_integer :
    (⟨0x430C6BF526340010⟩ : Binary64).IsFinite ∧
      amount ⟨0x430C6BF526340010⟩ = "1000000000000002" ∧
      ∃ n : Numeral 8, n.text = "1000000000000002" ∧ n.value = 1000000000000002 := by
  have hfinite : (⟨0x430C6BF526340010⟩ : Binary64).IsFinite := by decide
  have htext : amount ⟨0x430C6BF526340010⟩ = "1000000000000002" := by decide +kernel
  have hvalue : (⟨0x430C6BF526340010⟩ : Binary64).toRat = (1000000000000002 : ℤ) :=
    Binary64.toRat_of_isIntegral (by decide +kernel)
  obtain ⟨n, hunique, -, hinteger⟩ := amount_denotes ⟨0x430C6BF526340010⟩ hfinite
  refine ⟨hfinite, htext, n, ?_, ?_⟩
  · rw [← htext, (hunique n).mpr rfl]
  · rw [hinteger ⟨_, hvalue⟩, hvalue]
    norm_num

/-- A carry through all digits. -/
example : amount ⟨0x3FEFFFFFFF768FA1⟩ = "1" := by decide +kernel

end FeedExplorer.View
