import FeedExplorer.Files.Base64
import FeedExplorer.Proofs.Json.Record
import FeedExplorer.Proofs.Text.Bytes

/-!
# Reading base64

Main statement: the bytes that have been written are read, group by group.
-/

namespace FeedExplorer.Files.Base64

open Text (codes)

/-! ## Symbols -/

/-- The code of the symbol of a value. -/
def code (n : Nat) : UInt8 :=
  UInt8.ofNat (symbol n).toNat

theorem value?_code : ∀ n < 64, value? (code n).toNat = some n := by
  decide

theorem code_ne_pad : ∀ n < 64, code n ≠ pad := by
  decide

theorem readSymbol_code {n : Nat} (hn : n < 64) (offset : Nat) :
    readSymbol offset (code n) = .ok n := by
  rw [readSymbol, value?_code n hn]

/-- A character of one byte that can be told from what may stand around base64. -/
def Plain (c : Char) : Prop :=
  c.toNat < 128 ∧ c ≠ ';' ∧ Text.isBlank c = false

theorem plain_symbol : ∀ n < 64, Plain (symbol n) := by
  unfold Plain
  decide

theorem plain_pad : Plain '=' := by
  unfold Plain
  decide

theorem plain_of_mem_encodeChars (bytes : List UInt8) : ∀ c ∈ encodeChars bytes, Plain c := by
  induction bytes using encodeChars.induct with
  | case1 a b c rest ih =>
    have ha := a.toNat_lt
    have hb := b.toNat_lt
    have hc := c.toNat_lt
    simp only [encodeChars, List.forall_mem_cons]
    exact ⟨plain_symbol _ (by omega), plain_symbol _ (by omega), plain_symbol _ (by omega),
      plain_symbol _ (by omega), ih⟩
  | case2 a b =>
    have ha := a.toNat_lt
    have hb := b.toNat_lt
    simp only [encodeChars, List.forall_mem_cons]
    exact ⟨plain_symbol _ (by omega), plain_symbol _ (by omega), plain_symbol _ (by omega),
      plain_pad, by simp⟩
  | case3 a =>
    have ha := a.toNat_lt
    simp only [encodeChars, List.forall_mem_cons]
    exact ⟨plain_symbol _ (by omega), plain_symbol _ (by omega), plain_pad, plain_pad, by simp⟩
  | case4 => simp [encodeChars]

theorem length_encodeChars (bytes : List UInt8) : (encodeChars bytes).length % 4 = 0 := by
  induction bytes using encodeChars.induct with
  | case1 a b c rest ih =>
    simp only [encodeChars, List.length_cons]
    omega
  | _ => simp [encodeChars]

/-! ## Groups -/

section group

variable {a b c d : Nat} (ha : a < 64) (hb : b < 64) (hc : c < 64) (hd : d < 64)

include ha hb

theorem decodeLast_two (hbits : b % 16 = 0) (offset : Nat) :
    decodeLast offset [code a, code b, pad, pad] = .ok [UInt8.ofNat (a * 4 + b / 16)] := by
  simp [decodeLast, readLastGroup, readSymbol_code, code_ne_pad, ha, hb, hbits, pure, Except.pure]

include hc

theorem decodeLast_three (hbits : c % 4 = 0) (offset : Nat) :
    decodeLast offset [code a, code b, code c, pad] =
      .ok [UInt8.ofNat (a * 4 + b / 16), UInt8.ofNat (b % 16 * 16 + c / 4)] := by
  simp [decodeLast, readLastGroup, readSymbol_code, code_ne_pad, ha, hb, hc, hbits, pure,
    Except.pure]

include hd

theorem decodeLast_four (offset : Nat) :
    decodeLast offset [code a, code b, code c, code d] =
      .ok [UInt8.ofNat (a * 4 + b / 16), UInt8.ofNat (b % 16 * 16 + c / 4),
        UInt8.ofNat (c % 4 * 64 + d)] := by
  simp [decodeLast, readLastGroup, readSymbol_code, code_ne_pad, ha, hb, hc, hd, pure, Except.pure]

/-- A full group is read alike at the end and in front of others. -/
theorem decodeFrom_group {rest bytes : List UInt8} (offset : Nat)
    (hrest : decodeFrom (offset + 4) rest = .ok bytes) :
    decodeFrom offset (code a :: code b :: code c :: code d :: rest) =
      .ok (UInt8.ofNat (a * 4 + b / 16) :: UInt8.ofNat (b % 16 * 16 + c / 4) ::
        UInt8.ofNat (c % 4 * 64 + d) :: bytes) := by
  rw [decodeFrom]
  split
  · next hnil =>
    rw [List.isEmpty_iff] at hnil
    subst hnil
    obtain rfl : bytes = [] := by
      have hnone : decodeFrom (offset + 4) [] = .ok [] := rfl
      exact (Except.ok.inj (hnone.symm.trans hrest)).symm
    exact decodeLast_four ha hb hc hd offset
  · simp only [readSymbol_code ha, readSymbol_code hb, readSymbol_code hc, readSymbol_code hd,
      hrest, Json.ok_bind]
    rfl

end group

/-! ## Bytes and their groups -/

theorem ofNat_of_eq {m : Nat} {a : UInt8} (h : m = a.toNat) : UInt8.ofNat m = a := by
  rw [h, UInt8.ofNat_toNat]

/-- The bits of the bytes that were cut apart come together again. -/
theorem decodeFrom_encodeChars (bytes : List UInt8) (offset : Nat) :
    decodeFrom offset (codes (encodeChars bytes)) = .ok bytes := by
  induction bytes using encodeChars.induct generalizing offset with
  | case1 a b c rest ih =>
    have ha := a.toNat_lt
    have hb := b.toNat_lt
    have hc := c.toNat_lt
    simp only [encodeChars]
    refine (decodeFrom_group (by omega) (by omega) (by omega) (by omega) offset
      (ih (offset + 4))).trans ?_
    rw [ofNat_of_eq (a := a) (by omega), ofNat_of_eq (a := b) (by omega),
      ofNat_of_eq (a := c) (by omega)]
  | case2 a b =>
    have ha := a.toNat_lt
    have hb := b.toNat_lt
    simp only [encodeChars]
    refine (decodeLast_three (by omega) (by omega) (by omega) (by omega) offset).trans ?_
    rw [ofNat_of_eq (a := a) (by omega), ofNat_of_eq (a := b) (by omega)]
  | case3 a =>
    have ha := a.toNat_lt
    simp only [encodeChars]
    refine (decodeLast_two (by omega) (by omega) (by omega) offset).trans ?_
    rw [ofNat_of_eq (a := a) (by omega)]
  | case4 => rfl

theorem strayEnd?_encodeChars (bytes : List UInt8) :
    strayEnd? (codes (encodeChars bytes)) = none := by
  have hlength := length_encodeChars bytes
  rw [strayEnd?]
  split
  · rw [codes, List.length_map, if_neg (by omega)]
  · rfl

/-- What has been written is read. -/
theorem decode_encode (bytes : List UInt8) : decode (encode bytes).toUTF8.toList = .ok bytes := by
  rw [encode, Text.toList_toUTF8 fun c hc => (plain_of_mem_encodeChars bytes c hc).1, decode,
    strayEnd?_encodeChars]
  exact decodeFrom_encodeChars bytes 0

end FeedExplorer.Files.Base64
