import FeedExplorer.Proofs.Number.Digits
import FeedExplorer.Proofs.Number.Exact
import Mathlib.Data.List.DropRight

/-!
# Numerals

The texts that write a decimal fraction in full and without superfluous digits, and the numbers
that they denote. Main statements: a text belongs to one numeral at most, and every multiple of a
power of a tenth has a numeral.
-/

namespace FeedExplorer.Number

/-- Up to `places` digits behind the point. -/
structure Numeral (places : Nat) where
  negative : Bool
  whole : List Char
  fraction : List Char
  isDigit_whole : ∀ c ∈ whole, c.isDigit = true
  isDigit_fraction : ∀ c ∈ fraction, c.isDigit = true
  whole_ne_nil : whole ≠ []
  /-- Nothing stands behind a zero in front. -/
  whole_of_zero : whole.head? = some '0' → whole = ['0']
  length_fraction_le : fraction.length ≤ places
  getLast?_fraction_ne : fraction.getLast? ≠ some '0'

/-- A point stands only in front of a digit. -/
def behindPoint (fraction : List Char) : List Char :=
  if fraction = [] then [] else '.' :: fraction

namespace Numeral

variable {places : Nat}

def chars (n : Numeral places) : List Char :=
  minus n.negative ++ (n.whole ++ behindPoint n.fraction)

def text (n : Numeral places) : String :=
  String.ofList n.chars

/-- All digits as an integer, over the power of ten for those behind the point. -/
def value (n : Numeral places) : ℚ :=
  signed n.negative * (Nat.ofDigitChars 10 (n.whole ++ n.fraction) 0 / 10 ^ n.fraction.length)

/-! ## What a text denotes -/

theorem head?_chars (n : Numeral places) : n.chars.head? = some '-' ↔ n.negative = true := by
  obtain ⟨c, ds, hwhole⟩ := List.exists_cons_of_ne_nil n.whole_ne_nil
  have hc : c.isDigit = true := n.isDigit_whole c (by simp [hwhole])
  have hminus : c ≠ '-' := by
    rintro rfl
    exact absurd hc (by decide)
  rw [chars, hwhole]
  cases n.negative <;> simp [minus, hminus]

theorem takeWhile_isDigit (n : Numeral places) :
    (n.whole ++ behindPoint n.fraction).takeWhile Char.isDigit = n.whole := by
  have hpoint : (behindPoint n.fraction).takeWhile Char.isDigit = [] := by
    rw [behindPoint]
    split
    · rfl
    · exact List.takeWhile_cons_of_neg (by decide)
  rw [List.takeWhile_append_of_pos n.isDigit_whole, hpoint, List.append_nil]

theorem behindPoint_injective {f g : List Char} (h : behindPoint f = behindPoint g) : f = g := by
  unfold behindPoint at h
  split at h <;> split at h
  · next hf hg => rw [hf, hg]
  · cases h
  · cases h
  · exact (List.cons.inj h).2

theorem eq_of_chars_eq {m n : Numeral places} (h : m.chars = n.chars) : m = n := by
  have hnegative : m.negative = n.negative := by
    rw [Bool.eq_iff_iff, ← head?_chars, h, head?_chars]
  rw [chars, chars, hnegative, List.append_cancel_left_eq] at h
  have hwhole : m.whole = n.whole := by rw [← takeWhile_isDigit, h, takeWhile_isDigit]
  rw [hwhole, List.append_cancel_left_eq] at h
  have hfraction := behindPoint_injective h
  cases m
  cases n
  simp only at hnegative hwhole hfraction
  subst hnegative hwhole hfraction
  rfl

/-- A text denotes one number at most. -/
theorem text_injective : Function.Injective (text : Numeral places → String) :=
  fun _ _ h => eq_of_chars_eq (String.ofList_injective h)

end Numeral

/-! ## The numeral of a decimal -/

/-- The digits of a number below `10 ^ places`, with zeros in front. -/
def padded (places n : Nat) : List Char :=
  zeros (places - (digitsOf n).length) ++ digitsOf n

section Padded

variable {places n : Nat}

theorem isDigit_of_mem_padded {c : Char} (h : c ∈ padded places n) : c.isDigit = true := by
  rcases List.mem_append.mp h with hzero | hdigit
  · rw [List.eq_of_mem_replicate hzero]
    decide
  · exact isDigit_of_mem_digitsOf hdigit

theorem length_padded (hplaces : 0 < places) (hn : n < 10 ^ places) :
    (padded places n).length = places := by
  have hlength : (digitsOf n).length ≤ places :=
    (Nat.length_toDigits_le_iff (by decide) hplaces).mpr hn
  rw [padded, List.length_append, zeros, List.length_replicate]
  omega

theorem ofDigitChars_padded (hplaces : 0 < places) (hn : n < 10 ^ places) (q : Nat) :
    Nat.ofDigitChars 10 (padded places n) q = 10 ^ places * q + n := by
  rw [Nat.ofDigitChars_eq_ofDigitChars_zero, length_padded hplaces hn, padded,
    Nat.ofDigitChars_append, zeros, Nat.ofDigitChars_replicate_zero, Nat.mul_zero, digitsOf,
    Nat.ofDigitChars_ten_toDigits]

end Padded

/-- The zeros at the end of a fraction count for nothing. -/
theorem ofDigitChars_rdropWhile (digits : List Char) (q : Nat) :
    Nat.ofDigitChars 10 digits q =
      10 ^ (digits.length - (digits.rdropWhile (· == '0')).length) *
        Nat.ofDigitChars 10 (digits.rdropWhile (· == '0')) q := by
  have hzeros : digits.rtakeWhile (· == '0') =
      List.replicate (digits.rtakeWhile (· == '0')).length '0' :=
    List.eq_replicate_of_mem fun c hc => by simpa using List.mem_rtakeWhile_imp hc
  have hsplit := List.rdropWhile_append_rtakeWhile (p := (· == '0')) (l := digits)
  have hlength := congrArg List.length hsplit
  rw [List.length_append] at hlength
  have hcount : (digits.rtakeWhile (· == '0')).length =
      digits.length - (digits.rdropWhile (· == '0')).length := by omega
  conv_lhs => rw [← hsplit, hzeros, Nat.ofDigitChars_append, Nat.ofDigitChars_replicate_zero,
    hcount]

/-- The digits of `n` behind a point, without the zeros at the end. -/
def significant (places n : Nat) : List Char :=
  (padded places n).rdropWhile (· == '0')

theorem isPrefix_significant (places n : Nat) : significant places n <+: padded places n :=
  List.rdropWhile_prefix _ _

theorem significant_zero (places : Nat) : significant places 0 = [] := by
  have hdigits : digitsOf 0 = ['0'] := Nat.toDigits_zero 10
  rw [significant, List.rdropWhile_eq_nil_iff, padded, hdigits]
  intro c hc
  rcases List.mem_append.mp hc with hzero | hdigit
  · exact beq_iff_eq.mpr (List.eq_of_mem_replicate hzero)
  · exact beq_iff_eq.mpr (List.mem_singleton.mp hdigit)

theorem getLast?_significant_ne (places n : Nat) : (significant places n).getLast? ≠ some '0' := by
  intro h
  have hne : significant places n ≠ [] := by
    intro hnil
    rw [hnil] at h
    cases h
  rw [List.getLast?_eq_getLast_of_ne_nil hne, Option.some_inj] at h
  exact List.rdropWhile_last_not (· == '0') _ hne (beq_iff_eq.mpr h)

theorem length_significant_le {places n : Nat} (hplaces : 0 < places) (hn : n < 10 ^ places) :
    (significant places n).length ≤ places :=
  Nat.le_trans (isPrefix_significant places n).length_le (Nat.le_of_eq (length_padded hplaces hn))

/-- The digits that are left denote the same multiple of a power of a tenth. -/
theorem ofDigitChars_significant {places : Nat} (hplaces : 0 < places) (n : Nat) :
    10 ^ (places - (significant places (n % 10 ^ places)).length) *
      Nat.ofDigitChars 10
        (digitsOf (n / 10 ^ places) ++ significant places (n % 10 ^ places)) 0 = n := by
  have hrest : n % 10 ^ places < 10 ^ places := Nat.mod_lt n (Nat.pow_pos (by decide))
  have hpadded := ofDigitChars_padded hplaces hrest (n / 10 ^ places)
  rw [ofDigitChars_rdropWhile, length_padded hplaces hrest, Nat.div_add_mod] at hpadded
  rw [Nat.ofDigitChars_append, digitsOf, Nat.ofDigitChars_ten_toDigits]
  exact hpadded

/-- The numeral of `n / 10 ^ places`. -/
def Numeral.ofDecimal {places : Nat} (hplaces : 0 < places) (negative : Bool) (n : Nat) :
    Numeral places where
  negative := negative
  whole := digitsOf (n / 10 ^ places)
  fraction := significant places (n % 10 ^ places)
  isDigit_whole _ := isDigit_of_mem_digitsOf
  isDigit_fraction _ h := isDigit_of_mem_padded ((isPrefix_significant _ _).subset h)
  whole_ne_nil := Nat.toDigits_ne_nil
  whole_of_zero h := by
    by_cases hzero : n / 10 ^ places = 0
    · rw [hzero]
      rfl
    · exact absurd h (head_digitsOf hzero)
  length_fraction_le := length_significant_le hplaces (Nat.mod_lt n (Nat.pow_pos (by decide)))
  getLast?_fraction_ne := getLast?_significant_ne _ _

theorem Numeral.value_ofDecimal {places : Nat} (hplaces : 0 < places) (negative : Bool) (n : Nat) :
    (ofDecimal hplaces negative n).value = signed negative * (n / 10 ^ places) := by
  have hdigits := ofDigitChars_significant hplaces n
  have hlength : (significant places (n % 10 ^ places)).length ≤ places :=
    (ofDecimal hplaces negative n).length_fraction_le
  rw [value, ofDecimal]
  generalize (significant places (n % 10 ^ places)).length = l at hdigits hlength ⊢
  rw [← pow_sub_mul_pow (10 : ℚ) hlength]
  conv_rhs => rw [← hdigits]
  push_cast
  rw [mul_div_mul_left _ _ (pow_ne_zero _ (by decide))]

/-! ## The numeral of an integer -/

def Numeral.ofInteger {places : Nat} (hplaces : 0 < places) (k : ℤ) : Numeral places :=
  ofDecimal hplaces (decide (k < 0)) (k.natAbs * 10 ^ places)

theorem Numeral.value_ofInteger {places : Nat} (hplaces : 0 < places) (k : ℤ) :
    (ofInteger hplaces k).value = k := by
  rw [ofInteger, value_ofDecimal]
  push_cast
  rw [mul_div_cancel_right₀ _ (pow_ne_zero places (by decide)), signed_mul_natAbs]

theorem integer_eq_text {places : Nat} (hplaces : 0 < places) (k : ℤ) :
    integer k = (Numeral.ofInteger hplaces k).text := by
  have hwhole : k.natAbs * 10 ^ places / 10 ^ places = k.natAbs :=
    Nat.mul_div_cancel _ (Nat.pow_pos (by decide))
  have hfraction : significant places (k.natAbs * 10 ^ places % 10 ^ places) = [] := by
    rw [Nat.mul_mod_left, significant_zero]
  rw [integer, Numeral.text, Numeral.chars, Numeral.ofInteger, Numeral.ofDecimal]
  simp only [hwhole, hfraction, behindPoint, if_pos, List.append_nil]

end FeedExplorer.Number
