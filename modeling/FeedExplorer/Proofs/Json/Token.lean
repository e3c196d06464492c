import FeedExplorer.Json.Skipper
import FeedExplorer.Proofs.Json.Kinds
import Mathlib.Data.List.DropRight
import Mathlib.Data.List.TakeDrop

/-!
# Reading and skipping single tokens

What a reader takes from the front of a text does not depend on what stands behind it, as long as
that is nothing or begins with the same character, and what is read is also skipped. Main
statements: this for strings, for numbers, and for all values without a container.
-/

namespace FeedExplorer.Json

/-! ## Gaps -/

theorem skipGap_skipGap (cs : List Char) : skipGap (skipGap cs) = skipGap cs :=
  List.dropWhile_idempotent isGap cs

/-- What has a gap before it keeps it when it is continued otherwise. -/
theorem exists_gap {cs rest : List Char} {c : Char} (h : skipGap cs = c :: rest) :
    ∃ gap, cs = gap ++ c :: rest ∧ ∀ tail, skipGap (gap ++ c :: tail) = c :: tail := by
  induction cs with
  | nil => cases h
  | cons b cs ih =>
    rw [skipGap, List.dropWhile_cons] at h
    split at h
    · next hb =>
      obtain ⟨gap, rfl, hgap⟩ := ih h
      refine ⟨b :: gap, rfl, fun tail => ?_⟩
      rw [List.cons_append, skipGap, List.dropWhile_cons_of_pos hb]
      exact hgap tail
    · next hb =>
      obtain ⟨rfl, rfl⟩ := List.cons.inj h
      exact ⟨[], rfl, fun tail => List.dropWhile_cons_of_neg hb⟩

/-! ## Fronts of texts -/

/-- The tail can stand where the rest has been without being taken for more of what is before. -/
def Fits (tail rest : List Char) : Prop :=
  tail = [] ∨ tail.head? = rest.head?

theorem Fits.refl (rest : List Char) : Fits rest rest :=
  .inr rfl

theorem Fits.nil (rest : List Char) : Fits [] rest :=
  .inl rfl

theorem Fits.append {tail rest : List Char} (h : Fits tail rest) (front : List Char) :
    Fits (front ++ tail) (front ++ rest) := by
  cases front with
  | nil => exact h
  | cons c front => exact .inr rfl

/-- What has been read at the front of a text is read and skipped there whatever stands behind. -/
def Takes {α : Type} (read : List Char → Except Fault (α × List Char))
    (skip : List Char → Except Fault (List Char)) (cs : List Char) (a : α) (rest : List Char) :
    Prop :=
  ∃ taken, cs = taken ++ rest ∧
    ∀ tail, Fits tail rest → read (taken ++ tail) = .ok (a, tail) ∧ skip (taken ++ tail) = .ok tail

theorem Takes.cons {α : Type} {read : List Char → Except Fault (α × List Char)}
    {skip : List Char → Except Fault (List Char)} {c : Char} {cs rest : List Char} {a : α}
    (h : Takes (fun cs => read (c :: cs)) (fun cs => skip (c :: cs)) cs a rest) :
    Takes read skip (c :: cs) a rest := by
  obtain ⟨taken, rfl, htaken⟩ := h
  exact ⟨c :: taken, rfl, htaken⟩

/-! ## Words -/

theorem readWord_eq_ok_iff {word cs rest : List Char} :
    readWord word cs = .ok rest ↔ cs = word ++ rest := by
  induction word generalizing cs with
  | nil => simp [readWord, eq_comm]
  | cons w word ih =>
    cases cs with
    | nil => simp [readWord]
    | cons c cs =>
      rw [readWord]
      split
      · next h => simp [ih, h]
      · next h => simp [Ne.symm h]

/-! ## Strings -/

theorem readHex_eq_ok {cs rest : List Char} {n : Nat} (h : readHex cs = .ok (n, rest)) :
    ∃ taken, cs = taken ++ rest ∧ taken.length = 4 ∧
      ∀ tail, readHex (taken ++ tail) = .ok (n, tail) := by
  unfold readHex at h
  split at h
  · next a b c d rest' =>
    split at h
    · next ha hb hc hd =>
      obtain ⟨rfl, rfl⟩ := Prod.mk.inj (Except.ok.inj h)
      exact ⟨[a, b, c, d], rfl, rfl, fun tail => by simp [readHex, ha, hb, hc, hd]⟩
    · cases h
  · split at h <;> cases h


theorem readCodeEscape_eq_ok {cs rest : List Char} {e : Char}
    (h : readCodeEscape cs = .ok (e, rest)) :
    ∃ n four behind, cs = four ++ behind ∧ (∀ tail, readHex (four ++ tail) = .ok (n, tail)) ∧
      (behind = rest ∧ (∀ tail, readCodeEscape (four ++ tail) = .ok (e, tail)) ∨
        ∃ m more, behind = '\\' :: 'u' :: (more ++ rest) ∧
          (∀ tail, readHex (more ++ tail) = .ok (m, tail)) ∧
          ∀ tail, readCodeEscape (four ++ '\\' :: 'u' :: (more ++ tail)) = .ok (e, tail)) := by
  rw [readCodeEscape, bind_eq_ok_iff] at h
  obtain ⟨⟨n, behind⟩, hn, h⟩ := h
  obtain ⟨four, rfl, -, hfour⟩ := readHex_eq_ok hn
  refine ⟨n, four, behind, rfl, hfour, ?_⟩
  dsimp only at h
  split at h
  · cases h
  next hlow =>
  split at h
  · next hplain =>
    obtain ⟨rfl, rfl⟩ := Prod.mk.inj (Except.ok.inj h)
    exact .inl ⟨rfl, fun tail => by simp [readCodeEscape, hfour, hlow, hplain, pure, Except.pure]⟩
  next hpair =>
  split at h
  · cases h
  · cases h
  · next behind =>
    obtain ⟨⟨m, rest⟩, hm, hend⟩ := bind_eq_ok_iff.mp h
    obtain ⟨more, rfl, -, hmore⟩ := readHex_eq_ok hm
    dsimp only at hend
    split at hend
    · cases hend
    next hlow' =>
    obtain ⟨rfl, rfl⟩ := Prod.mk.inj (Except.ok.inj hend)
    refine .inr ⟨m, more, rfl, hmore, fun tail => ?_⟩
    simp [readCodeEscape, hfour, hmore, hlow, hpair, hlow', pure, Except.pure]
  · cases h
  · cases h

/-- An escape of another letter than `u` is skipped as it is read. -/
theorem skipString_escape {cs rest : List Char} {e : Char} (h : readEscape cs = .ok (e, rest))
    (hu : cs.head? ≠ some 'u') (fuel : Nat) :
    skipString (fuel + 1) ('\\' :: cs) = skipString fuel rest := by
  rw [skipString, if_neg (by decide), if_pos rfl, h]
  · rfl
  · rintro rest rfl
    exact hu rfl

theorem skipString_code {cs rest : List Char} {n : Nat} (h : readHex cs = .ok (n, rest))
    (fuel : Nat) : skipString (fuel + 1) ('\\' :: 'u' :: cs) = skipString fuel rest := by
  simp [skipString, h]

/-- An escape is skipped in one step, or in two when two halves make one character. -/
theorem readEscape_eq_ok {cs rest : List Char} {e : Char} (h : readEscape cs = .ok (e, rest)) :
    ∃ taken, cs = taken ++ rest ∧ ∀ tail, readEscape (taken ++ tail) = .ok (e, tail) ∧
      ∀ fuel, (taken ++ tail).length < fuel → ∃ fuel', tail.length < fuel' ∧
        skipString (fuel + 1) ('\\' :: (taken ++ tail)) = skipString fuel' tail := by
  by_cases hu : cs.head? = some 'u'
  · obtain ⟨cs, rfl⟩ := List.head?_eq_some_iff.mp hu
    obtain ⟨n, four, behind, rfl, hfour, ⟨rfl, hone⟩ | ⟨m, more, rfl, hmore, htwo⟩⟩ :=
      readCodeEscape_eq_ok h
    · refine ⟨'u' :: four, rfl, fun tail => ⟨hone tail, fun fuel hfuel => ⟨fuel, ?_, ?_⟩⟩⟩
      · simp only [List.length_cons, List.length_append] at hfuel
        omega
      · exact skipString_code (hfour tail) fuel
    · refine ⟨'u' :: (four ++ '\\' :: 'u' :: more), by simp, fun tail => ?_⟩
      simp only [List.cons_append, List.append_assoc]
      refine ⟨htwo tail, ?_⟩
      rintro (_ | fuel) hfuel
      · exact absurd hfuel (Nat.not_lt_zero _)
      · refine ⟨fuel, ?_, ?_⟩
        · simp only [List.length_cons, List.length_append] at hfuel
          omega
        · rw [skipString_code (hfour _), skipString_code (hmore tail)]
  · -- every other escape is a single letter
    have hletter : ∃ c, cs = c :: rest ∧ ∀ tail, readEscape (c :: tail) = .ok (e, tail) := by
      unfold readEscape at h
      split at h
      case h_10 => exact absurd rfl hu
      case h_1 => cases h
      case h_11 => cases h
      all_goals
        obtain ⟨rfl, rfl⟩ := Prod.mk.inj (Except.ok.inj h)
        exact ⟨_, rfl, fun tail => rfl⟩
    obtain ⟨c, rfl, hread⟩ := hletter
    refine ⟨[c], rfl, fun tail => ⟨hread tail, fun fuel hfuel => ⟨fuel, ?_, ?_⟩⟩⟩
    · exact (Nat.lt_succ_self _).trans hfuel
    · exact skipString_escape (hread tail) (by simpa using hu) fuel

theorem readStringBody_eq_ok {fuel : Nat} {cs s rest : List Char}
    (h : readStringBody fuel cs = .ok (s, rest)) :
    ∃ taken, taken ≠ [] ∧ cs = taken ++ rest ∧ ∀ tail fuel, (taken ++ tail).length < fuel →
      readStringBody fuel (taken ++ tail) = .ok (s, tail) ∧
        skipString fuel (taken ++ tail) = .ok tail := by
  induction fuel generalizing cs s with
  | zero => cases h
  | succ fuel ih =>
    cases cs with
    | nil => cases h
    | cons c cs =>
      rw [readStringBody] at h
      split at h
      · next hquote =>
        obtain ⟨rfl, rfl⟩ := Prod.mk.inj (Except.ok.inj h)
        refine ⟨[c], by simp, rfl, ?_⟩
        rintro tail (_ | fuel) hfuel
        · exact absurd hfuel (Nat.not_lt_zero _)
        · simp [readStringBody, skipString, hquote]
      next hquote =>
      split at h
      · next hescape =>
        obtain ⟨⟨e, behind⟩, he, h⟩ := bind_eq_ok_iff.mp h
        obtain ⟨⟨s', rest'⟩, hs, h⟩ := bind_eq_ok_iff.mp h
        obtain ⟨rfl, rfl⟩ := Prod.mk.inj (Except.ok.inj h)
        obtain ⟨front, rfl, hfront⟩ := readEscape_eq_ok he
        obtain ⟨taken, -, rfl, htaken⟩ := ih hs
        refine ⟨c :: (front ++ taken), by simp, by simp, ?_⟩
        subst hescape
        rintro tail (_ | fuel) hfuel
        · exact absurd hfuel (Nat.not_lt_zero _)
        · simp only [List.cons_append, List.append_assoc, List.length_cons] at hfuel ⊢
          obtain ⟨hread, hskip⟩ := hfront (taken ++ tail)
          obtain ⟨fuel', hfuel', hskip⟩ := hskip fuel (by omega)
          have hlength : (taken ++ tail).length < fuel := by
            simp only [List.length_append] at hfuel ⊢
            omega
          rw [readStringBody, if_neg hquote, if_pos rfl, hread, hskip]
          exact ⟨by simp [(htaken tail fuel hlength).1], (htaken tail fuel' hfuel').2⟩
      next hescape =>
      split at h
      · cases h
      next hcontrol =>
      obtain ⟨⟨s', rest'⟩, hs, h⟩ := bind_eq_ok_iff.mp h
      obtain ⟨rfl, rfl⟩ := Prod.mk.inj (Except.ok.inj h)
      obtain ⟨taken, -, rfl, htaken⟩ := ih hs
      refine ⟨c :: taken, by simp, rfl, ?_⟩
      rintro tail (_ | fuel) hfuel
      · exact absurd hfuel (Nat.not_lt_zero _)
      · obtain ⟨hread, hskip⟩ := htaken tail fuel (Nat.lt_of_succ_lt_succ hfuel)
        simp [readStringBody, skipString, hquote, hescape, hcontrol, hread, hskip, pure,
          Except.pure]

theorem takes_readString {cs rest : List Char} {s : String} (h : readString cs = .ok (s, rest)) :
    ∃ taken, taken ≠ [] ∧ cs = taken ++ rest ∧ ∀ tail, readString (taken ++ tail) = .ok (s, tail) ∧
      skipString ((taken ++ tail).length + 1) (taken ++ tail) = .ok tail := by
  obtain ⟨⟨body, rest'⟩, hbody, h⟩ := bind_eq_ok_iff.mp h
  obtain ⟨rfl, rfl⟩ := Prod.mk.inj (Except.ok.inj h)
  obtain ⟨taken, hne, rfl, htaken⟩ := readStringBody_eq_ok hbody
  refine ⟨taken, hne, rfl, fun tail => ?_⟩
  obtain ⟨hread, hskip⟩ := htaken tail _ (Nat.lt_succ_self _)
  exact ⟨by rw [readString, hread]; rfl, hskip⟩

/-! ## Numbers -/

/-- The text does not begin with a digit. -/
def NoDigit (cs : List Char) : Prop :=
  ∀ c, cs.head? = some c → c.isDigit = false

theorem Fits.head_ne {tail rest : List Char} (h : Fits tail rest) {c : Char}
    (hc : rest.head? ≠ some c) : tail.head? ≠ some c := by
  rcases h with rfl | h
  · exact nofun
  · exact h ▸ hc

theorem Fits.noDigit {tail rest : List Char} (h : Fits tail rest) (hrest : NoDigit rest) :
    NoDigit tail := by
  intro c hc
  rcases h with rfl | h
  · cases hc
  · exact hrest c (h ▸ hc)

theorem exists_digits (cs : List Char) :
    ∃ ds rest, cs = ds ++ rest ∧ (∀ c ∈ ds, c.isDigit = true) ∧ NoDigit rest := by
  induction cs with
  | nil => exact ⟨[], [], rfl, nofun, nofun⟩
  | cons c cs ih =>
    cases hc : c.isDigit with
    | false => exact ⟨[], c :: cs, rfl, nofun, fun b hb => by simp_all⟩
    | true =>
      obtain ⟨ds, rest, rfl, hds, hrest⟩ := ih
      exact ⟨c :: ds, rest, rfl, List.forall_mem_cons.mpr ⟨hc, hds⟩, hrest⟩

section digits

variable {ds tail : List Char} (hds : ∀ c ∈ ds, c.isDigit = true) (htail : NoDigit tail)

include hds htail

theorem dropWhile_digits : (ds ++ tail).dropWhile Char.isDigit = tail := by
  rw [List.dropWhile_append_of_pos hds]
  cases tail with
  | nil => rfl
  | cons c tail => exact List.dropWhile_cons_of_neg (by simp [htail c rfl])

theorem spanDigits_append : spanDigits (ds ++ tail) = (ds, tail) := by
  have htake : (ds ++ tail).takeWhile Char.isDigit = ds := by
    have happend := List.takeWhile_append_dropWhile (p := Char.isDigit) (l := ds ++ tail)
    rw [dropWhile_digits hds htail] at happend
    exact List.append_cancel_right happend
  rw [spanDigits, List.span_eq_takeWhile_dropWhile, htake, dropWhile_digits hds htail]

end digits

/-- Only digits are taken for an exponent, and all of them if it is not huge. -/
theorem readExponentDigits_append {ds : List Char} (hds : ∀ c ∈ ds, c.isDigit = true) (n : Nat) :
    ∃ e huge left, (∀ c ∈ left, c.isDigit = true) ∧ (huge = false → left = []) ∧
      ∀ tail, NoDigit tail → readExponentDigits n (ds ++ tail) = (e, huge, left ++ tail) := by
  induction ds generalizing n with
  | nil =>
    refine ⟨n, false, [], nofun, fun _ => rfl, fun tail htail => ?_⟩
    cases tail with
    | nil => rfl
    | cons c tail => simp [readExponentDigits, htail c rfl]
  | cons c ds ih =>
    obtain ⟨hc, hds⟩ := List.forall_mem_cons.mp hds
    by_cases hbig : 2147483648 ≤ 10 * n + (c.toNat - 48)
    · refine ⟨10 * n + (c.toNat - 48), true, ds, hds, nofun, fun tail _ => ?_⟩
      rw [List.cons_append, readExponentDigits, if_pos hc, if_pos hbig]
    · obtain ⟨e, huge, left, hleft, hall, hread⟩ := ih hds (10 * n + (c.toNat - 48))
      refine ⟨e, huge, left, hleft, hall, fun tail htail => ?_⟩
      rw [List.cons_append, readExponentDigits, if_pos hc, if_neg hbig]
      exact hread tail htail

section number

variable {negative : Bool} {digits : Nat} {scale : Int} {cs rest : List Char} {v : Json}

theorem readReal_eq_ok (h : readReal negative digits scale cs = .ok (v, rest)) :
    cs = rest ∧ ∀ tail, readReal negative digits scale tail = .ok (v, tail) := by
  unfold readReal at h
  split at h
  · next x hx =>
    obtain ⟨rfl, rfl⟩ := Prod.mk.inj (Except.ok.inj h)
    exact ⟨rfl, fun tail => by rw [readReal, hx]⟩
  · cases h

/-- An exponent behind its sign. -/
def readUnsigned (negative : Bool) (digits : Nat) (scale : Int) (down : Bool) (cs : List Char) :
    Except Fault (Json × List Char) :=
  match cs with
  | [] => .error (.behind .endInValue [])
  | c :: rest =>
    if c.isDigit then
      let (e, huge, rest') := readExponentDigits 0 cs
      if huge then
        if digits ≠ 0 ∧ ¬ down then .error (.behind .numberOutOfRange rest')
        else .ok (.real (Binary64.zero negative), rest'.dropWhile Char.isDigit)
      else readReal negative digits (if down then scale - e else scale + e) rest'
    else .error ⟨.invalidNumber, byteCount (c :: rest) - 1, false⟩

def skipUnsigned (cs : List Char) : Except Fault (List Char) :=
  match cs with
  | [] => .error (.behind .endInValue [])
  | c :: rest =>
    if c.isDigit then .ok (rest.dropWhile Char.isDigit)
    else .error ⟨.invalidNumber, byteCount (c :: rest) - 1, false⟩

theorem readUnsigned_eq_ok {down : Bool}
    (h : readUnsigned negative digits scale down cs = .ok (v, rest)) :
    ∃ c ds, c.isDigit = true ∧ (∀ d ∈ ds, d.isDigit = true) ∧ cs = c :: (ds ++ rest) ∧
      NoDigit rest ∧ ∀ tail, NoDigit tail →
        readUnsigned negative digits scale down (c :: (ds ++ tail)) = .ok (v, tail) := by
  unfold readUnsigned at h
  split at h
  · cases h
  next c cs =>
  split at h
  · next hc =>
    obtain ⟨ds, behind, rfl, hds, hbehind⟩ := exists_digits cs
    obtain ⟨e, huge, left, hleft, hall, hread⟩ :=
      readExponentDigits_append (List.forall_mem_cons.mpr ⟨hc, hds⟩) 0
    have hfront : ∀ tail, NoDigit tail →
        readExponentDigits 0 (c :: (ds ++ tail)) = (e, huge, left ++ tail) := hread
    simp only [hfront behind hbehind] at h
    cases huge with
    | true =>
      rw [if_pos rfl, dropWhile_digits hleft hbehind] at h
      split at h
      · cases h
      next hzero =>
      obtain ⟨rfl, rfl⟩ := Prod.mk.inj (Except.ok.inj h)
      refine ⟨c, ds, hc, hds, rfl, hbehind, fun tail htail => ?_⟩
      simp only [readUnsigned, hfront tail htail]
      rw [if_pos hc, if_pos trivial, if_neg hzero, dropWhile_digits hleft htail]
    | false =>
      obtain rfl := hall rfl
      obtain ⟨rfl, hreal⟩ := readReal_eq_ok h
      refine ⟨c, ds, hc, hds, rfl, hbehind, fun tail htail => ?_⟩
      simp only [readUnsigned, hfront tail htail]
      rw [if_pos hc]
      exact hreal tail
  · cases h

theorem skipUnsigned_digits {c : Char} {ds : List Char} (hc : c.isDigit = true)
    (hds : ∀ d ∈ ds, d.isDigit = true) (hrest : NoDigit rest) :
    skipUnsigned (c :: (ds ++ rest)) = .ok rest := by
  rw [skipUnsigned, if_pos hc, dropWhile_digits hds hrest]

theorem exponent_cons {c : Char} (hplus : c ≠ '+') (hminus : c ≠ '-') (tail : List Char) :
    readExponent negative digits scale (c :: tail) =
        readUnsigned negative digits scale false (c :: tail) ∧
      skipExponent (c :: tail) = skipUnsigned (c :: tail) := by
  simp [readExponent, readUnsigned, skipExponent, skipUnsigned, hplus, hminus]

theorem takes_readExponent (h : readExponent negative digits scale cs = .ok (v, rest)) :
    Takes (readExponent negative digits scale) skipExponent cs v rest := by
  have htakes : ∀ sign body down, readUnsigned negative digits scale down body = .ok (v, rest) →
      (∀ c tail, c.isDigit = true →
        readExponent negative digits scale (sign ++ c :: tail) =
            readUnsigned negative digits scale down (c :: tail) ∧
          skipExponent (sign ++ c :: tail) = skipUnsigned (c :: tail)) →
      Takes (readExponent negative digits scale) skipExponent (sign ++ body) v rest := by
    intro sign body down hbody hsign
    obtain ⟨c, ds, hc, hds, rfl, hrest, hread⟩ := readUnsigned_eq_ok hbody
    refine ⟨sign ++ c :: ds, by simp, fun tail htail => ?_⟩
    obtain ⟨hr, hs⟩ := hsign c (ds ++ tail) hc
    simp only [List.append_assoc, List.cons_append, hr, hs]
    have htail := htail.noDigit hrest
    exact ⟨hread tail htail, skipUnsigned_digits hc hds htail⟩
  cases cs with
  | nil => cases h
  | cons c cs =>
    by_cases hplus : c = '+'
    · subst hplus
      exact htakes ['+'] cs false h fun c tail _ => ⟨rfl, rfl⟩
    by_cases hminus : c = '-'
    · subst hminus
      exact htakes ['-'] cs true h fun c tail _ => ⟨rfl, rfl⟩
    · rw [(exponent_cons hplus hminus cs).1] at h
      refine htakes [] (c :: cs) false h fun d tail hd => exponent_cons ?_ ?_ tail
      · rintro rfl
        exact absurd hd (by decide)
      · rintro rfl
        exact absurd hd (by decide)

/-- The rest behind an exponent, if there is one. -/
def skipScale : List Char → Except Fault (List Char)
  | 'e' :: rest => skipExponent rest
  | 'E' :: rest => skipExponent rest
  | rest => .ok rest

theorem readScale_of_head_ne (he : cs.head? ≠ some 'e') (hE : cs.head? ≠ some 'E') :
    readScale negative digits scale cs = readReal negative digits scale cs := by
  rw [readScale]
  · rintro rest rfl
    exact he rfl
  · rintro rest rfl
    exact hE rfl

theorem skipScale_of_head_ne (he : cs.head? ≠ some 'e') (hE : cs.head? ≠ some 'E') :
    skipScale cs = .ok cs := by
  rw [skipScale]
  · rintro rest rfl
    exact he rfl
  · rintro rest rfl
    exact hE rfl

theorem takes_readScale (h : readScale negative digits scale cs = .ok (v, rest)) :
    Takes (readScale negative digits scale) skipScale cs v rest := by
  by_cases he : cs.head? = some 'e'
  · obtain ⟨cs, rfl⟩ := List.head?_eq_some_iff.mp he
    exact Takes.cons (takes_readExponent h)
  by_cases hE : cs.head? = some 'E'
  · obtain ⟨cs, rfl⟩ := List.head?_eq_some_iff.mp hE
    exact Takes.cons (takes_readExponent h)
  rw [readScale_of_head_ne he hE] at h
  obtain ⟨rfl, hreal⟩ := readReal_eq_ok h
  refine ⟨[], rfl, fun tail htail => ?_⟩
  rw [List.nil_append, readScale_of_head_ne (htail.head_ne he) (htail.head_ne hE),
    skipScale_of_head_ne (htail.head_ne he) (htail.head_ne hE)]
  exact ⟨hreal tail, rfl⟩

/-- A number that ends behind the digits before the point. -/
def readWhole (negative : Bool) (whole cs : List Char) : Except Fault (Json × List Char) :=
  let n := natOfDigits whole
  if Number.wordLimit ≤ n then readReal negative n 0 cs else .ok (integerValue negative n, cs)

theorem readWhole_eq_ok {whole : List Char} (h : readWhole negative whole cs = .ok (v, rest)) :
    cs = rest ∧ ∀ tail, readWhole negative whole tail = .ok (v, tail) := by
  unfold readWhole at h ⊢
  dsimp only at h ⊢
  split at h
  · next hbig =>
    obtain ⟨rfl, hreal⟩ := readReal_eq_ok h
    exact ⟨rfl, fun tail => by rw [if_pos hbig, hreal]⟩
  · next hsmall =>
    obtain ⟨rfl, rfl⟩ := Prod.mk.inj (Except.ok.inj h)
    exact ⟨rfl, fun tail => by rw [if_neg hsmall]⟩

theorem skipFraction_point {c : Char} (hc : c.isDigit = true) (cs : List Char) :
    skipFraction ('.' :: c :: cs) = skipScale (cs.dropWhile Char.isDigit) := by
  simp only [skipFraction, hc, if_true]
  rfl

theorem readFraction_of_head_ne {whole : List Char} (hpoint : cs.head? ≠ some '.')
    (he : cs.head? ≠ some 'e') (hE : cs.head? ≠ some 'E') :
    readFraction negative whole cs = readWhole negative whole cs := by
  rw [readFraction]
  · rfl
  all_goals rintro rest rfl
  exacts [hpoint rfl, he rfl, hE rfl]

theorem skipFraction_of_head_ne (hpoint : cs.head? ≠ some '.') (he : cs.head? ≠ some 'e')
    (hE : cs.head? ≠ some 'E') : skipFraction cs = .ok cs := by
  rw [skipFraction]
  all_goals rintro rest rfl
  exacts [hpoint rfl, he rfl, hE rfl]

theorem readFraction_point {whole ds behind : List Char} {c : Char} (hc : c.isDigit = true)
    (hds : ∀ d ∈ ds, d.isDigit = true) (hbehind : NoDigit behind) :
    readFraction negative whole ('.' :: c :: (ds ++ behind)) =
      readScale negative (natOfDigits (whole ++ c :: ds)) (-(c :: ds).length) behind := by
  have hspan : spanDigits (c :: (ds ++ behind)) = (c :: ds, behind) :=
    spanDigits_append (List.forall_mem_cons.mpr ⟨hc, hds⟩) hbehind
  rw [readFraction, hspan]
  rfl

theorem takes_readFraction {whole : List Char}
    (h : readFraction negative whole cs = .ok (v, rest)) :
    Takes (readFraction negative whole) skipFraction cs v rest := by
  by_cases hpoint : cs.head? = some '.'
  · obtain ⟨cs, rfl⟩ := List.head?_eq_some_iff.mp hpoint
    obtain ⟨ds, behind, rfl, hds, hbehind⟩ := exists_digits cs
    cases ds with
    | nil =>
      rw [readFraction, spanDigits_append hds hbehind] at h
      cases behind <;> cases h
    | cons c ds =>
      obtain ⟨hc, hds⟩ := List.forall_mem_cons.mp hds
      rw [List.cons_append, readFraction_point hc hds hbehind] at h
      obtain ⟨taken, rfl, htaken⟩ := takes_readScale h
      refine ⟨'.' :: c :: (ds ++ taken), by simp, fun tail htail => ?_⟩
      have hnone : NoDigit (taken ++ tail) := (htail.append taken).noDigit hbehind
      simp only [List.cons_append, List.append_assoc]
      rw [readFraction_point hc hds hnone, skipFraction_point hc, dropWhile_digits hds hnone]
      exact htaken tail htail
  by_cases he : cs.head? = some 'e'
  · obtain ⟨cs, rfl⟩ := List.head?_eq_some_iff.mp he
    exact Takes.cons (takes_readExponent h)
  by_cases hE : cs.head? = some 'E'
  · obtain ⟨cs, rfl⟩ := List.head?_eq_some_iff.mp hE
    exact Takes.cons (takes_readExponent h)
  rw [readFraction_of_head_ne hpoint he hE] at h
  obtain ⟨rfl, hwhole⟩ := readWhole_eq_ok h
  refine ⟨[], rfl, fun tail htail => ?_⟩
  rw [List.nil_append,
    readFraction_of_head_ne (htail.head_ne hpoint) (htail.head_ne he) (htail.head_ne hE),
    skipFraction_of_head_ne (htail.head_ne hpoint) (htail.head_ne he) (htail.head_ne hE)]
  exact ⟨hwhole tail, rfl⟩

theorem readNumber_zero (hcs : NoDigit cs) :
    readNumber negative ('0' :: cs) = readFraction negative ['0'] cs := by
  cases cs with
  | nil => rfl
  | cons c cs => simp [readNumber, hcs c rfl]

theorem skipNumber_zero (hcs : NoDigit cs) : skipNumber ('0' :: cs) = skipFraction cs := by
  cases cs with
  | nil => rfl
  | cons c cs => simp [skipNumber, hcs c rfl]

theorem readNumber_digits {c : Char} {ds : List Char} (hzero : c ≠ '0') (hc : c.isDigit = true)
    (hds : ∀ d ∈ ds, d.isDigit = true) (hcs : NoDigit cs) :
    readNumber negative (c :: (ds ++ cs)) = readFraction negative (c :: ds) cs := by
  have hspan : spanDigits (c :: (ds ++ cs)) = (c :: ds, cs) :=
    spanDigits_append (List.forall_mem_cons.mpr ⟨hc, hds⟩) hcs
  simp [readNumber, hc, hspan]

theorem skipNumber_digits {c : Char} {ds : List Char} (hzero : c ≠ '0') (hc : c.isDigit = true)
    (hds : ∀ d ∈ ds, d.isDigit = true) (hcs : NoDigit cs) :
    skipNumber (c :: (ds ++ cs)) = skipFraction cs := by
  simp [skipNumber, hc, dropWhile_digits hds hcs]

theorem takes_readNumber (h : readNumber negative cs = .ok (v, rest)) :
    ∃ c body, cs = c :: body ∧ c.isDigit = true ∧
      Takes (fun body => readNumber negative (c :: body)) (fun body => skipNumber (c :: body))
        body v rest := by
  cases cs with
  | nil => cases h
  | cons c cs =>
    by_cases hzero : c = '0'
    · subst hzero
      have hcs : NoDigit cs := by
        intro c hc
        obtain ⟨cs, rfl⟩ := List.head?_eq_some_iff.mp hc
        by_contra hdigit
        rw [Bool.not_eq_false] at hdigit
        simp [readNumber, hdigit] at h
      rw [readNumber_zero hcs] at h
      obtain ⟨taken, rfl, htaken⟩ := takes_readFraction h
      refine ⟨'0', _, rfl, by decide, taken, rfl, fun tail htail => ?_⟩
      have hnone : NoDigit (taken ++ tail) := (htail.append taken).noDigit hcs
      dsimp only
      rw [readNumber_zero hnone, skipNumber_zero hnone]
      exact htaken tail htail
    · have hc : c.isDigit = true := by
        by_contra hdigit
        simp [readNumber, hdigit] at h
      obtain ⟨ds, behind, rfl, hds, hbehind⟩ := exists_digits cs
      rw [readNumber_digits hzero hc hds hbehind] at h
      obtain ⟨taken, rfl, htaken⟩ := takes_readFraction h
      refine ⟨c, _, rfl, hc, ds ++ taken, by simp, fun tail htail => ?_⟩
      have hnone : NoDigit (taken ++ tail) := (htail.append taken).noDigit hbehind
      dsimp only
      rw [List.append_assoc, readNumber_digits hzero hc hds hnone,
        skipNumber_digits hzero hc hds hnone]
      exact htaken tail htail

section isNumber

variable {whole : List Char}

theorem isNumber_of_readReal (h : readReal negative digits scale cs = .ok (v, rest)) :
    IsNumber v := by
  unfold readReal at h
  split at h
  · obtain ⟨rfl, rfl⟩ := Prod.mk.inj (Except.ok.inj h)
    exact .inr ⟨_, rfl⟩
  · cases h

theorem isNumber_of_readExponent (h : readExponent negative digits scale cs = .ok (v, rest)) :
    IsNumber v := by
  unfold readExponent at h
  split at h
  split at h
  · cases h
  split at h
  · split at h
    split at h
    · split at h
      · cases h
      · obtain ⟨rfl, rfl⟩ := Prod.mk.inj (Except.ok.inj h)
        exact .inr ⟨_, rfl⟩
    · exact isNumber_of_readReal h
  · cases h

theorem isNumber_of_readScale (h : readScale negative digits scale cs = .ok (v, rest)) :
    IsNumber v := by
  unfold readScale at h
  split at h
  · exact isNumber_of_readExponent h
  · exact isNumber_of_readExponent h
  · exact isNumber_of_readReal h

theorem isNumber_integerValue (n : Nat) : IsNumber (integerValue negative n) := by
  unfold integerValue
  split
  · split
    · exact .inr ⟨_, rfl⟩
    · exact .inl ⟨_, rfl⟩
  · split
    · exact .inl ⟨_, rfl⟩
    · exact .inr ⟨_, rfl⟩

theorem isNumber_of_readFraction (h : readFraction negative whole cs = .ok (v, rest)) :
    IsNumber v := by
  unfold readFraction at h
  split at h
  · split at h
    split at h
    · split at h <;> cases h
    · exact isNumber_of_readScale h
  · exact isNumber_of_readExponent h
  · exact isNumber_of_readExponent h
  · dsimp only at h
    split at h
    · exact isNumber_of_readReal h
    · obtain ⟨rfl, rfl⟩ := Prod.mk.inj (Except.ok.inj h)
      exact isNumber_integerValue _

theorem isNumber_of_readNumber (h : readNumber negative cs = .ok (v, rest)) : IsNumber v := by
  unfold readNumber at h
  split at h
  · cases h
  · split at h
    · split at h
      · cases h
      · exact isNumber_of_readFraction h
    · exact isNumber_of_readFraction h
  · split at h
    · exact isNumber_of_readFraction h
    · cases h
end isNumber

end number

/-! ## Values without a container -/

/-- The rest behind a value that is neither a list nor an object. -/
def skipScalar (cs : List Char) : Except Fault (List Char) :=
  match skipGap cs with
  | [] => .error (.atNext .endInValue [])
  | 'n' :: rest => readWord ['u', 'l', 'l'] rest
  | 't' :: rest => readWord ['r', 'u', 'e'] rest
  | 'f' :: rest => readWord ['a', 'l', 's', 'e'] rest
  | '-' :: rest => skipNumber rest
  | '"' :: rest => skipString (rest.length + 1) rest
  | c :: rest =>
    if c.isDigit then skipNumber (c :: rest) else .error (.atNext .expectedValue (c :: rest))

section scalar

variable {cs body rest : List Char} {v : Json} {c : Char}

theorem takes_readWord {word : List Char} {w : Json}
    (h : (do return (w, ← readWord word cs)) = Except.ok (v, rest)) :
    Takes (fun cs => do return (w, ← readWord word cs)) (readWord word) cs v rest := by
  obtain ⟨rest', hrest, heq⟩ := bind_eq_ok_iff.mp h
  obtain ⟨rfl, rfl⟩ := Prod.mk.inj (Except.ok.inj heq)
  refine ⟨word, readWord_eq_ok_iff.mp hrest, fun tail _ => ?_⟩
  have htail : readWord word (word ++ tail) = .ok tail := readWord_eq_ok_iff.mpr rfl
  exact ⟨bind_eq_ok_iff.mpr ⟨tail, htail, rfl⟩, htail⟩

theorem takes_readText
    (h : (do let (s, rest) ← readString cs; return (str s, rest)) = Except.ok (v, rest)) :
    Takes (fun cs => do let (s, rest) ← readString cs; return (str s, rest))
      (fun cs => skipString (cs.length + 1) cs) cs v rest := by
  obtain ⟨⟨s, rest'⟩, hs, heq⟩ := bind_eq_ok_iff.mp h
  obtain ⟨rfl, rfl⟩ := Prod.mk.inj (Except.ok.inj heq)
  obtain ⟨taken, -, rfl, htaken⟩ := takes_readString hs
  refine ⟨taken, rfl, fun tail _ => ?_⟩
  obtain ⟨hread, hskip⟩ := htaken tail
  exact ⟨bind_eq_ok_iff.mpr ⟨(s, tail), hread, rfl⟩, hskip⟩

/-- The first character tells how a value is read and skipped. -/
theorem Takes.scalar {read : List Char → Except Fault (Json × List Char)}
    {skip : List Char → Except Fault (List Char)} (h : Takes read skip body v rest)
    (hcs : skipGap cs = c :: body)
    (hfront : ∀ cs body, skipGap cs = c :: body →
      readValue 1 0 cs = read body ∧ skipScalar cs = skip body) :
    Takes (readValue 1 0) skipScalar cs v rest := by
  obtain ⟨taken, rfl, htaken⟩ := h
  obtain ⟨gap, rfl, hgap⟩ := exists_gap hcs
  refine ⟨gap ++ c :: taken, by simp, fun tail htail => ?_⟩
  obtain ⟨hread, hskip⟩ := hfront (gap ++ c :: (taken ++ tail)) _ (hgap _)
  rw [List.append_assoc, List.cons_append, hread, hskip]
  exact htaken tail htail

theorem takes_readValue (h : readValue 1 0 cs = .ok (v, rest)) :
    Takes (readValue 1 0) skipScalar cs v rest := by
  rw [readValue] at h
  split at h
  · cases h
  · next hcs => exact (takes_readWord h).scalar hcs fun cs body hcs =>
      ⟨by rw [readValue, hcs]; rfl, by rw [skipScalar, hcs]; rfl⟩
  · next hcs => exact (takes_readWord h).scalar hcs fun cs body hcs =>
      ⟨by rw [readValue, hcs]; rfl, by rw [skipScalar, hcs]; rfl⟩
  · next hcs => exact (takes_readWord h).scalar hcs fun cs body hcs =>
      ⟨by rw [readValue, hcs]; rfl, by rw [skipScalar, hcs]; rfl⟩
  · next hcs =>
    obtain ⟨c, body, rfl, -, htakes⟩ := takes_readNumber h
    exact htakes.cons.scalar hcs fun cs body hcs =>
      ⟨by rw [readValue, hcs]; rfl, by rw [skipScalar, hcs]; rfl⟩
  · next hcs => exact (takes_readText h).scalar hcs fun cs body hcs =>
      ⟨by rw [readValue, hcs]; rfl, by rw [skipScalar, hcs]; rfl⟩
  · cases h
  · cases h
  · next c body hn ht hf hminus hquote hlist hobject hcs =>
    split at h
    · next hc =>
      obtain ⟨d, ds, heq, -, htakes⟩ := takes_readNumber h
      obtain ⟨rfl, rfl⟩ := List.cons.inj heq
      exact htakes.scalar hcs fun cs body hcs =>
        ⟨by rw [readValue, hcs]; simp [hc], by rw [skipScalar, hcs]; simp [hc]⟩
    · cases h

/-- A value without a container is a word, a string or a number, and its first character tells
which. -/
theorem readValue_cases (h : readValue 1 0 cs = .ok (v, rest)) :
    ∃ c body, skipGap cs = c :: body ∧
      (c.isDigit = false ∧ c ≠ '-' ∧ c ≠ '"' ∧ (v = .null ∨ ∃ b, v = .bool b) ∨
        c = '"' ∧ (∃ s, v = .str s ∧ readString body = .ok (s, rest)) ∨
        IsNumber v ∧ c ≠ '"' ∧ (c = '-' ∧ readNumber true body = .ok (v, rest) ∨
          c.isDigit = true ∧ readNumber false (c :: body) = .ok (v, rest))) := by
  rw [readValue] at h
  split at h
  · cases h
  · next body hcs =>
    obtain ⟨rest', -, heq⟩ := bind_eq_ok_iff.mp h
    obtain ⟨rfl, rfl⟩ := Prod.mk.inj (Except.ok.inj heq)
    exact ⟨_, body, hcs, .inl ⟨by decide, by decide, by decide, .inl rfl⟩⟩
  · next body hcs =>
    obtain ⟨rest', -, heq⟩ := bind_eq_ok_iff.mp h
    obtain ⟨rfl, rfl⟩ := Prod.mk.inj (Except.ok.inj heq)
    exact ⟨_, body, hcs, .inl ⟨by decide, by decide, by decide, .inr ⟨_, rfl⟩⟩⟩
  · next body hcs =>
    obtain ⟨rest', -, heq⟩ := bind_eq_ok_iff.mp h
    obtain ⟨rfl, rfl⟩ := Prod.mk.inj (Except.ok.inj heq)
    exact ⟨_, body, hcs, .inl ⟨by decide, by decide, by decide, .inr ⟨_, rfl⟩⟩⟩
  · next body hcs =>
    exact ⟨_, body, hcs, .inr (.inr ⟨isNumber_of_readNumber h, by decide, .inl ⟨rfl, h⟩⟩)⟩
  · next body hcs =>
    obtain ⟨⟨s, rest'⟩, hs, heq⟩ := bind_eq_ok_iff.mp h
    obtain ⟨rfl, rfl⟩ := Prod.mk.inj (Except.ok.inj heq)
    exact ⟨_, body, hcs, .inr (.inl ⟨rfl, s, rfl, hs⟩)⟩
  · cases h
  · cases h
  · next c body _ _ _ _ hquote _ _ hcs =>
    split at h
    · next hc =>
      exact ⟨c, body, hcs, .inr (.inr ⟨isNumber_of_readNumber h, hquote, .inr ⟨hc, h⟩⟩)⟩
    · cases h

theorem ne_container_of_readValue (h : readValue 1 0 cs = .ok (v, rest)) :
    (∀ items, v ≠ .arr items) ∧ ∀ members, v ≠ .obj members := by
  obtain ⟨c, body, -, hv⟩ := readValue_cases h
  rcases hv with ⟨-, -, -, rfl | ⟨b, rfl⟩⟩ | ⟨-, s, rfl, -⟩ | ⟨⟨n, rfl⟩ | ⟨x, rfl⟩, -⟩ <;> simp

end scalar

end FeedExplorer.Json
