import FeedExplorer.Proofs.Files.Base64
import Mathlib.Algebra.Group.Nat.Defs

/-!
# The one written form

Main statements: a written form spells the number that its bytes make, and nothing but the written
form of some bytes is read.
-/

namespace FeedExplorer.Files.Base64

open Json (bind_eq_ok_iff)
open Text (codes)

/-! ## The number that is spelled -/

/-- The number that has some digits behind those of another one, the highest first. -/
def number (base start : Nat) (digits : List Nat) : Nat :=
  digits.foldl (fun n d => n * base + d) start

/-- A text spells bytes. Four symbols with their padding stand for three bytes, and every padding
for one that is missing. To the base 64 the symbols are the digits of the number that the bytes
are the digits of to the base 256, moved up by two bits for every padding. -/
def Spells (cs : List Char) (bytes : List UInt8) : Prop :=
  ∃ values padding, cs = values.map symbol ++ List.replicate padding '=' ∧
    (∀ v ∈ values, v < 64) ∧ padding < 3 ∧
    3 * (values.length + padding) = 4 * (bytes.length + padding) ∧
    number 64 0 values = number 256 0 (bytes.map UInt8.toNat) * 4 ^ padding

theorem number_inj {base start start' : Nat} {ds es : List Nat} (hlength : ds.length = es.length)
    (hds : ∀ d ∈ ds, d < base) (hes : ∀ e ∈ es, e < base)
    (h : number base start ds = number base start' es) : start = start' ∧ ds = es := by
  induction ds generalizing start start' es with
  | nil =>
    obtain rfl := List.length_eq_zero_iff.mp hlength.symm
    exact ⟨h, rfl⟩
  | cons d ds ih =>
    obtain ⟨e, es, rfl⟩ := List.exists_cons_of_length_eq_add_one hlength.symm
    obtain ⟨hd, hds⟩ := List.forall_mem_cons.mp hds
    obtain ⟨he, hes⟩ := List.forall_mem_cons.mp hes
    obtain ⟨hstart, rfl⟩ := ih (by simpa using hlength) hds hes h
    have hdigit : d = e := by
      have hmod := congrArg (· % base) hstart
      simpa [Nat.mul_add_mod_self_right, Nat.mod_eq_of_lt hd, Nat.mod_eq_of_lt he] using hmod
    subst hdigit
    exact ⟨Nat.eq_of_mul_eq_mul_right (by omega) (Nat.add_right_cancel hstart), rfl⟩

/-- The digits that are still to come do not depend on those in front. -/
theorem exists_values (bytes : List UInt8) :
    ∃ values padding, encodeChars bytes = values.map symbol ++ List.replicate padding '=' ∧
      (∀ v ∈ values, v < 64) ∧ padding < 3 ∧
      3 * (values.length + padding) = 4 * (bytes.length + padding) ∧
      ∀ start, number 64 start values =
        number 256 start (bytes.map UInt8.toNat) * 4 ^ padding := by
  induction bytes using encodeChars.induct with
  | case1 a b c rest ih =>
    obtain ⟨values, padding, htext, hvalues, hpadding, hlength, hnumber⟩ := ih
    have ha := a.toNat_lt
    have hb := b.toNat_lt
    have hc := c.toNat_lt
    let n := (a.toNat * 256 + b.toNat) * 256 + c.toNat
    refine ⟨n / 262144 :: n / 4096 % 64 :: n / 64 % 64 :: n % 64 :: values, padding, ?_, ?_,
      hpadding, ?_, fun start => ?_⟩
    · rw [encodeChars, htext]
      rfl
    · simp only [List.forall_mem_cons]
      exact ⟨by omega, by omega, by omega, by omega, hvalues⟩
    · simp only [List.length_cons]
      omega
    · -- four digits to the base 64 move a number as far up as three to the base 256
      have hstart : (((start * 64 + n / 262144) * 64 + n / 4096 % 64) * 64 + n / 64 % 64) * 64 +
          n % 64 = ((start * 256 + a.toNat) * 256 + b.toNat) * 256 + c.toNat := by omega
      simp only [number, List.map_cons, List.foldl_cons]
      rw [hstart]
      exact hnumber _
  | case2 a b =>
    have ha := a.toNat_lt
    have hb := b.toNat_lt
    let n := (a.toNat * 256 + b.toNat) * 4
    refine ⟨[n / 4096, n / 64 % 64, n % 64], 1, rfl, ?_, by omega, rfl, fun start => ?_⟩
    · simp only [List.forall_mem_cons]
      exact ⟨by omega, by omega, by omega, by simp⟩
    · simp only [number, List.map_cons, List.map_nil, List.foldl_cons, List.foldl_nil]
      omega
  | case3 a =>
    have ha := a.toNat_lt
    let n := a.toNat * 16
    refine ⟨[n / 64, n % 64], 2, rfl, ?_, by omega, rfl, fun start => ?_⟩
    · simp only [List.forall_mem_cons]
      exact ⟨by omega, by omega, by simp⟩
    · simp only [number, List.map_cons, List.map_nil, List.foldl_cons, List.foldl_nil]
      omega
  | case4 => exact ⟨[], 0, rfl, by simp, by omega, rfl, fun start => by simp [number]⟩

/-- There is one way to spell bytes. -/
theorem spells_iff {cs : List Char} {bytes : List UInt8} :
    Spells cs bytes ↔ cs = encodeChars bytes := by
  obtain ⟨values, padding, htext, hvalues, hpadding, hlength, hnumber⟩ := exists_values bytes
  constructor
  · rintro ⟨values', padding', rfl, hvalues', hpadding', hlength', hnumber'⟩
    obtain rfl : padding' = padding := by omega
    rw [← hnumber 0] at hnumber'
    obtain ⟨-, rfl⟩ := number_inj (by omega) hvalues' hvalues hnumber'
    exact htext.symm
  · rintro rfl
    exact ⟨values, padding, htext, hvalues, hpadding, hlength, hnumber 0⟩

/-! ## What is read -/

theorem code_of_value? : ∀ b < 256, ∀ v ∈ value? b, v < 64 ∧ code v = UInt8.ofNat b := by
  decide +kernel

theorem readSymbol_eq_ok {offset v : Nat} {b : UInt8} (h : readSymbol offset b = .ok v) :
    v < 64 ∧ b = code v := by
  rw [readSymbol] at h
  split at h
  · next hv =>
    cases h
    obtain ⟨hlt, hcode⟩ := code_of_value? b.toNat b.toNat_lt v hv
    rw [UInt8.ofNat_toNat] at hcode
    exact ⟨hlt, hcode.symm⟩
  · cases h

/-- Padding stands behind two symbols or more, and nothing behind it. -/
theorem readLastGroup_eq_ok {offset place padding : Nat} {group : List UInt8} {values : List Nat}
    (h : readLastGroup offset place group = .ok (values, padding)) :
    (∀ v ∈ values, v < 64) ∧ group = values.map code ++ List.replicate padding pad ∧
      (padding = 0 ∨ 2 ≤ place + values.length) := by
  induction group generalizing place values with
  | nil =>
    cases h
    exact ⟨by simp, rfl, .inl rfl⟩
  | cons b group ih =>
    rw [readLastGroup] at h
    split at h
    · next hb =>
      split at h
      · cases h
      split at h
      · next hplace hrest =>
        cases h
        have hpads : group = List.replicate group.length pad :=
          List.eq_replicate_of_mem fun c hc => by simpa using List.all_eq_true.mp hrest c hc
        refine ⟨by simp, ?_, .inr (by omega)⟩
        rw [hb, List.map_nil, List.nil_append, List.replicate_succ, ← hpads]
      · cases h
    · obtain ⟨v, hv, h⟩ := bind_eq_ok_iff.mp h
      obtain ⟨⟨values', padding'⟩, hrest, h⟩ := bind_eq_ok_iff.mp h
      cases h
      obtain ⟨hlt, rfl⟩ := readSymbol_eq_ok hv
      obtain ⟨hvalues, rfl, hpadding⟩ := ih hrest
      refine ⟨List.forall_mem_cons.mpr ⟨hlt, hvalues⟩, rfl, ?_⟩
      rw [List.length_cons]
      omega

section group

variable {a b c d : Nat}

theorem toNat_first (ha : a < 64) (hb : b < 64) :
    (UInt8.ofNat (a * 4 + b / 16)).toNat = a * 4 + b / 16 :=
  UInt8.toNat_ofNat_of_lt' (by simp only [UInt8.size]; omega)

theorem toNat_second (hc : c < 64) :
    (UInt8.ofNat (b % 16 * 16 + c / 4)).toNat = b % 16 * 16 + c / 4 :=
  UInt8.toNat_ofNat_of_lt' (by simp only [UInt8.size]; omega)

theorem toNat_third (hd : d < 64) :
    (UInt8.ofNat (c % 4 * 64 + d)).toNat = c % 4 * 64 + d :=
  UInt8.toNat_ofNat_of_lt' (by simp only [UInt8.size]; omega)

variable (ha : a < 64) (hb : b < 64) (hc : c < 64) (hd : d < 64)

include ha hb

theorem encodeChars_one (hbits : b % 16 = 0) :
    encodeChars [UInt8.ofNat (a * 4 + b / 16)] = [symbol a, symbol b, '=', '='] := by
  have hn : (a * 4 + b / 16) * 16 = a * 64 + b := by omega
  simp only [encodeChars, toNat_first ha hb, hn]
  rw [(by omega : (a * 64 + b) / 64 = a), (by omega : (a * 64 + b) % 64 = b)]

include hc

theorem encodeChars_two (hbits : c % 4 = 0) :
    encodeChars [UInt8.ofNat (a * 4 + b / 16), UInt8.ofNat (b % 16 * 16 + c / 4)] =
      [symbol a, symbol b, symbol c, '='] := by
  have hn : ((a * 4 + b / 16) * 256 + (b % 16 * 16 + c / 4)) * 4 = (a * 64 + b) * 64 + c := by
    omega
  simp only [encodeChars, toNat_first ha hb, toNat_second hc, hn]
  rw [(by omega : ((a * 64 + b) * 64 + c) / 4096 = a),
    (by omega : ((a * 64 + b) * 64 + c) / 64 % 64 = b),
    (by omega : ((a * 64 + b) * 64 + c) % 64 = c)]

include hd

theorem encodeChars_three (bytes : List UInt8) :
    encodeChars (UInt8.ofNat (a * 4 + b / 16) :: UInt8.ofNat (b % 16 * 16 + c / 4) ::
      UInt8.ofNat (c % 4 * 64 + d) :: bytes) =
        symbol a :: symbol b :: symbol c :: symbol d :: encodeChars bytes := by
  have hn : ((a * 4 + b / 16) * 256 + (b % 16 * 16 + c / 4)) * 256 + (c % 4 * 64 + d) =
      ((a * 64 + b) * 64 + c) * 64 + d := by omega
  simp only [encodeChars, toNat_first ha hb, toNat_second hc, toNat_third hd, hn]
  rw [(by omega : (((a * 64 + b) * 64 + c) * 64 + d) / 262144 = a),
    (by omega : (((a * 64 + b) * 64 + c) * 64 + d) / 4096 % 64 = b),
    (by omega : (((a * 64 + b) * 64 + c) * 64 + d) / 64 % 64 = c),
    (by omega : (((a * 64 + b) * 64 + c) * 64 + d) % 64 = d)]

end group

theorem decodeLast_eq_ok {offset : Nat} {group bytes : List UInt8} (hlength : group.length ≤ 4)
    (h : decodeLast offset group = .ok bytes) : group = codes (encodeChars bytes) := by
  unfold decodeLast at h
  obtain ⟨⟨values, padding⟩, hgroup, h⟩ := bind_eq_ok_iff.mp h
  obtain ⟨hvalues, rfl, hpadding⟩ := readLastGroup_eq_ok hgroup
  simp only [List.length_append, List.length_map, List.length_replicate] at hlength
  dsimp only at h
  split at h
  · cases h
  next hfull =>
  -- the symbols are as many as padding leaves room for, and no bits are left over behind the bytes
  match values with
  | [] =>
    dsimp only at h
    split at h
    · next hnil =>
      cases h
      exact List.isEmpty_iff.mp hnil
    · cases h
  | [_] => cases h
  | [a, b] =>
    obtain rfl : padding = 2 := by simp at hlength hfull; omega
    dsimp only at h
    split at h
    · cases h
    next hbits =>
    cases h
    simp only [List.forall_mem_cons] at hvalues
    rw [encodeChars_one hvalues.1 hvalues.2.1 (by omega)]
    rfl
  | [a, b, c] =>
    obtain rfl : padding = 1 := by simp at hlength hfull; omega
    dsimp only at h
    split at h
    · cases h
    next hbits =>
    cases h
    simp only [List.forall_mem_cons] at hvalues
    rw [encodeChars_two hvalues.1 hvalues.2.1 hvalues.2.2.1 (by omega)]
    rfl
  | a :: b :: c :: d :: values =>
    obtain ⟨rfl, rfl⟩ : values = [] ∧ padding = 0 := by
      simp at hlength
      exact ⟨List.length_eq_zero_iff.mp (by omega), by omega⟩
    cases h
    simp only [List.forall_mem_cons] at hvalues
    rw [encodeChars_three hvalues.1 hvalues.2.1 hvalues.2.2.1 hvalues.2.2.2.1]
    rfl

theorem decodeFrom_eq_ok {offset : Nat} {read bytes : List UInt8}
    (h : decodeFrom offset read = .ok bytes) : read = codes (encodeChars bytes) := by
  induction offset, read using decodeFrom.induct generalizing bytes with
  | case1 offset a b c d rest hrest =>
    rw [decodeFrom, if_pos hrest] at h
    rw [List.isEmpty_iff.mp hrest]
    exact decodeLast_eq_ok (Nat.le_refl 4) h
  | case2 offset a b c d rest hrest ih =>
    rw [decodeFrom, if_neg hrest] at h
    obtain ⟨va, hva, h⟩ := bind_eq_ok_iff.mp h
    obtain ⟨vb, hvb, h⟩ := bind_eq_ok_iff.mp h
    obtain ⟨vc, hvc, h⟩ := bind_eq_ok_iff.mp h
    obtain ⟨vd, hvd, h⟩ := bind_eq_ok_iff.mp h
    obtain ⟨bytes', hbytes', h⟩ := bind_eq_ok_iff.mp h
    cases h
    obtain ⟨ha, rfl⟩ := readSymbol_eq_ok hva
    obtain ⟨hb, rfl⟩ := readSymbol_eq_ok hvb
    obtain ⟨hc, rfl⟩ := readSymbol_eq_ok hvc
    obtain ⟨hd, rfl⟩ := readSymbol_eq_ok hvd
    rw [encodeChars_three ha hb hc hd, ih hbytes']
    rfl
  | case3 offset group hshort =>
    have hlength : group.length ≤ 4 := by
      rcases group with _ | ⟨a, _ | ⟨b, _ | ⟨c, _ | ⟨d, rest⟩⟩⟩⟩
      · simp
      · simp
      · simp
      · simp
      · exact absurd rfl (hshort a b c d rest)
    rw [decodeFrom] at h
    · exact decodeLast_eq_ok hlength h
    · exact hshort

/-- Nothing but a written form is read. -/
theorem decode_eq_ok_iff {s : String} {bytes : List UInt8} :
    decode s.toUTF8.toList = .ok bytes ↔ s = encode bytes := by
  constructor
  · intro h
    unfold decode at h
    split at h
    · cases h
    have hcodes := decodeFrom_eq_ok h
    rw [← Text.toList_toUTF8 fun c hc => (plain_of_mem_encodeChars bytes c hc).1] at hcodes
    have hbytes : s.toUTF8 = (encode bytes).toUTF8 := by
      rw [← Text.mk_toArray_toList s.toUTF8, hcodes, Text.mk_toArray_toList]
      rfl
    exact String.toByteArray_inj.mp hbytes
  · rintro rfl
    exact decode_encode bytes

end FeedExplorer.Files.Base64
