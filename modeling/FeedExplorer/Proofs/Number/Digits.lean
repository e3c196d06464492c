import FeedExplorer.Number.Notation

/-!
# Digits of written numbers

Main statements: a number is written without a zero in front, and a double of a data text with
digits, signs, a point and the mark of an exponent alone.
-/

namespace FeedExplorer.Number

theorem isDigit_of_mem_digitsOf {n : Nat} {c : Char} (h : c ∈ digitsOf n) : c.isDigit = true :=
  Nat.isDigit_of_mem_toDigits (by decide) (by decide) h

theorem head_digitsOf {n : Nat} (hn : n ≠ 0) : (digitsOf n).head? ≠ some '0' := by
  induction n using Nat.base_induction 10 (by decide) with
  | single m hm => simpa [digitsOf, Nat.toDigits_of_lt_base hm] using hn
  | digit m k hk hm ih =>
    obtain ⟨c, ds, hds⟩ := List.exists_cons_of_ne_nil (Nat.toDigits_ne_nil (b := 10) (n := m))
    have ih := ih (by omega)
    rw [digitsOf, hds] at ih
    rw [digitsOf, ← Nat.toDigits_append_toDigits (by decide) hm hk, hds]
    exact ih

/-- Zero is one digit, and any other number begins with another digit. -/
theorem digitsOf_cases (n : Nat) :
    n = 0 ∧ digitsOf n = ['0'] ∨ ∃ c ds, digitsOf n = c :: ds ∧ c ≠ '0' ∧ c.isDigit = true ∧
      ∀ d ∈ ds, d.isDigit = true := by
  by_cases hn : n = 0
  · subst hn
    exact .inl ⟨rfl, Nat.toDigits_zero 10⟩
  · obtain ⟨c, ds, hds⟩ := List.exists_cons_of_ne_nil (Nat.toDigits_ne_nil (b := 10) (n := n))
    have hdigit : ∀ d ∈ c :: ds, d.isDigit = true := fun d hd => by
      rw [← hds] at hd
      exact isDigit_of_mem_digitsOf hd
    refine .inr ⟨c, ds, hds, ?_, List.forall_mem_cons.mp hdigit⟩
    rintro rfl
    exact head_digitsOf hn (by rw [digitsOf, hds]; rfl)

/-- The characters of a double that is written for a data text. -/
def IsNumeral (c : Char) : Prop :=
  c.isDigit = true ∨ c ∈ ['-', '+', '.', 'e']

section numeral

variable {whole fraction digits : List Char}

theorem isNumeral_of_mem_digitsOf {n : Nat} : ∀ c ∈ digitsOf n, IsNumeral c :=
  fun _ hc => .inl (isDigit_of_mem_digitsOf hc)

theorem isNumeral_of_mem_zeros {n : Nat} : ∀ c ∈ zeros n, IsNumeral c := by
  intro c hc
  rw [List.eq_of_mem_replicate hc]
  exact .inl (by decide)

theorem isNumeral_of_mem_minus {negative : Bool} : ∀ c ∈ minus negative, IsNumeral c := by
  cases negative <;> simp [minus, IsNumeral]

theorem isNumeral_of_mem_withPoint (h : ∀ c ∈ digits, IsNumeral c) (point : Int) :
    (∀ c ∈ (withPoint digits point).1, IsNumeral c) ∧
      ∀ c ∈ (withPoint digits point).2, IsNumeral c := by
  unfold withPoint
  split
  · exact ⟨nofun, List.forall_mem_append.mpr ⟨isNumeral_of_mem_zeros, h⟩⟩
  split
  · exact ⟨List.forall_mem_append.mpr ⟨h, isNumeral_of_mem_zeros⟩, nofun⟩
  · exact ⟨fun c hc => h c (List.mem_of_mem_take hc), fun c hc => h c (List.mem_of_mem_drop hc)⟩

theorem isNumeral_of_mem_joinPoint (hwhole : ∀ c ∈ whole, IsNumeral c)
    (hfraction : ∀ c ∈ fraction, IsNumeral c) : ∀ c ∈ joinPoint whole fraction, IsNumeral c := by
  have hzero : ∀ c ∈ if whole.isEmpty then ['0'] else whole, IsNumeral c := by
    split
    · exact List.forall_mem_singleton.mpr (.inl (by decide))
    · exact hwhole
  unfold joinPoint
  dsimp only
  split
  · exact hzero
  · exact List.forall_mem_append.mpr
      ⟨hzero, List.forall_mem_cons.mpr ⟨.inr (by decide), hfraction⟩⟩

theorem isNumeral_of_mem_exponentPart (e : Int) : ∀ c ∈ exponentPart e, IsNumeral c := by
  refine List.forall_mem_cons.mpr ⟨.inr (by decide), List.forall_mem_cons.mpr ⟨.inr ?_, ?_⟩⟩
  · split <;> decide
  · exact isNumeral_of_mem_digitsOf

end numeral

theorem isNumeral_of_mem_data (x : Binary64) : ∀ c ∈ (data x).toList, IsNumeral c := by
  unfold data
  split
  · rw [String.toList_ofList]
    refine List.forall_mem_append.mpr ⟨isNumeral_of_mem_minus, ?_⟩
    simp [IsNumeral]
  · dsimp only
    rw [String.toList_ofList]
    refine List.forall_mem_append.mpr ⟨isNumeral_of_mem_minus, ?_⟩
    split
    · obtain ⟨hwhole, hfraction⟩ := isNumeral_of_mem_withPoint
        (isNumeral_of_mem_digitsOf (n := (shortest x).digits))
        ((digitsOf (shortest x).digits).length + (shortest x).scale)
      refine isNumeral_of_mem_joinPoint hwhole ?_
      split
      · exact List.forall_mem_singleton.mpr (.inl (by decide))
      · exact hfraction
    · refine List.forall_mem_append.mpr
        ⟨isNumeral_of_mem_joinPoint ?_ ?_, isNumeral_of_mem_exponentPart _⟩
      · exact fun c hc => isNumeral_of_mem_digitsOf c (List.mem_of_mem_take hc)
      · exact fun c hc => isNumeral_of_mem_digitsOf c (List.mem_of_mem_drop hc)

end FeedExplorer.Number
