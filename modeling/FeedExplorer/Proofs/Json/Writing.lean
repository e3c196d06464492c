import FeedExplorer.Json.Printer
import FeedExplorer.Proofs.Json.Reading
import FeedExplorer.Proofs.Json.Sorting
import FeedExplorer.Proofs.Number.Digits
import Mathlib.Algebra.BigOperators.Group.List.Basic

/-!
# Reading what has been written

The text of a value is read as that value, wherever it stands in a larger text. Main statement:
this for every value whose integers fit, whose doubles are read back, and which is not nested too
deep.
-/

namespace FeedExplorer.Json

/-! ## Strings -/

theorem readHex_hexFixed {n : Nat} (hn : n < 65536) (rest : List Char) :
    readHex (Text.hexFixed 4 n ++ rest) = .ok (n, rest) := by
  have hvalue : ∀ m, Text.hexValue? (Text.hexDigit (m % 16)) = some (m % 16) := fun m =>
    Text.hexValue?_hexDigit (Nat.mod_lt m (by decide))
  simp only [Text.hexFixed, List.nil_append, List.cons_append, readHex, hvalue, Except.ok.injEq,
    Prod.mk.injEq, and_true]
  omega

/-- One written character is read as that character. -/
theorem readStringBody_escapeChar (c : Char) (fuel : Nat) (cs : List Char) :
    readStringBody (fuel + 1) (escapeChar c ++ cs) = do
      let (tail, rest) ← readStringBody fuel cs
      return (c :: tail, rest) := by
  unfold escapeChar
  -- the seven characters that have an escape of their own
  iterate 7
    split
    case isTrue h => subst h; rfl
  next hquote hbackslash _ _ _ _ _ =>
  split
  · next hcontrol =>
    have hcode : readCodeEscape (Text.hexFixed 4 c.toNat ++ cs) = .ok (c, cs) := by
      rw [readCodeEscape, readHex_hexFixed (by omega), ok_bind]
      dsimp only
      rw [if_neg (by omega), if_pos (by omega), Char.ofNat_toNat]
      rfl
    have hescape : readEscape ('u' :: (Text.hexFixed 4 c.toNat ++ cs)) = .ok (c, cs) := hcode
    simp only [List.cons_append, readStringBody, hescape, ok_bind]
    rfl
  · next hplain => simp [readStringBody, hquote, hbackslash, hplain]

theorem readStringBody_flatMap (s rest : List Char) {fuel : Nat} (hfuel : s.length < fuel) :
    readStringBody fuel (s.flatMap escapeChar ++ '"' :: rest) = .ok (s, rest) := by
  induction s generalizing fuel with
  | nil =>
    obtain ⟨fuel, rfl⟩ : ∃ n, fuel = n + 1 := ⟨fuel - 1, by simp at hfuel; omega⟩
    rfl
  | cons c s ih =>
    rw [List.length_cons] at hfuel
    obtain ⟨fuel, rfl⟩ : ∃ n, fuel = n + 1 := ⟨fuel - 1, by omega⟩
    rw [List.flatMap_cons, List.append_assoc, readStringBody_escapeChar, ih (by omega)]
    rfl

theorem length_escapeChar_pos (c : Char) : 0 < (escapeChar c).length := by
  unfold escapeChar
  repeat' split
  all_goals simp

theorem length_le_length_flatMap (s : List Char) : s.length ≤ (s.flatMap escapeChar).length := by
  have hlengths : ∀ n ∈ s.map fun c => (escapeChar c).length, 1 ≤ n :=
    List.forall_mem_map.mpr fun c _ => length_escapeChar_pos c
  have hsum := List.length_le_sum_of_one_le _ hlengths
  rwa [List.length_map, ← List.length_flatMap] at hsum

/-- A written string is read behind its opening quote. -/
theorem readString_escaped (s : String) (rest : List Char) :
    readString (s.toList.flatMap escapeChar ++ '"' :: rest) = .ok (s, rest) := by
  have hlength := length_le_length_flatMap s.toList
  rw [readString, readStringBody_flatMap _ _ (by rw [List.length_append]; omega), ok_bind]
  simp [String.ofList_toList, pure, Except.pure]

theorem keyAt_stringChars (key : String) (rest : List Char) :
    KeyAt (stringChars key ++ ':' :: rest) key rest := by
  refine ⟨':' :: rest, ?_, rfl⟩
  simp only [stringChars, List.cons_append, List.append_assoc, List.nil_append, readKey]
  exact readString_escaped key _

/-! ## Numbers in front of other texts -/

/-- No number goes on in the text. -/
structure Halts (tail : List Char) : Prop where
  noDigit : NoDigit tail
  noPoint : tail.head? ≠ some '.'
  noMark : tail.head? ≠ some 'e'
  noCapital : tail.head? ≠ some 'E'

theorem Halts.nil : Halts [] :=
  ⟨nofun, nofun, nofun, nofun⟩

theorem halts_cons {c : Char} (hdigit : c.isDigit = false) (hpoint : c ≠ '.') (hmark : c ≠ 'e')
    (hcapital : c ≠ 'E') (tail : List Char) : Halts (c :: tail) :=
  ⟨fun d hd => by cases hd; exact hdigit, by simpa using hpoint, by simpa using hmark,
    by simpa using hcapital⟩

section number

variable {negative : Bool} {digits : Nat} {scale : Int} {cs tail whole : List Char} {v : Json}

theorem readUnsigned_front {down : Bool} (htail : Halts tail)
    (h : readUnsigned negative digits scale down cs = .ok (v, [])) :
    readUnsigned negative digits scale down (cs ++ tail) = .ok (v, tail) := by
  obtain ⟨c, ds, -, -, rfl, -, hread⟩ := readUnsigned_eq_ok h
  simpa using hread tail htail.noDigit

theorem readExponent_front (htail : Halts tail)
    (h : readExponent negative digits scale cs = .ok (v, [])) :
    readExponent negative digits scale (cs ++ tail) = .ok (v, tail) := by
  cases cs with
  | nil => cases h
  | cons c cs =>
    by_cases hplus : c = '+'
    · subst hplus
      exact readUnsigned_front htail h
    by_cases hminus : c = '-'
    · subst hminus
      exact readUnsigned_front htail h
    · rw [(exponent_cons hplus hminus cs).1] at h
      rw [List.cons_append, (exponent_cons hplus hminus _).1]
      exact readUnsigned_front htail h

theorem readScale_front (htail : Halts tail)
    (h : readScale negative digits scale cs = .ok (v, [])) :
    readScale negative digits scale (cs ++ tail) = .ok (v, tail) := by
  by_cases he : cs.head? = some 'e'
  · obtain ⟨cs, rfl⟩ := List.head?_eq_some_iff.mp he
    exact readExponent_front htail h
  by_cases hE : cs.head? = some 'E'
  · obtain ⟨cs, rfl⟩ := List.head?_eq_some_iff.mp hE
    exact readExponent_front htail h
  rw [readScale_of_head_ne he hE] at h
  obtain ⟨rfl, hreal⟩ := readReal_eq_ok h
  rw [List.nil_append, readScale_of_head_ne htail.noMark htail.noCapital]
  exact hreal tail

/-- Digits with nothing of a number behind them are the whole number. -/
theorem readFraction_halts (htail : Halts tail) :
    readFraction negative whole tail = readWhole negative whole tail :=
  readFraction_of_head_ne htail.noPoint htail.noMark htail.noCapital

/-- What stands before `tail` is followed by no digit if what stands before nothing is not. -/
theorem Halts.noDigit_append (htail : Halts tail) (h : NoDigit cs) : NoDigit (cs ++ tail) := by
  cases cs with
  | nil => exact htail.noDigit
  | cons c cs => exact h

theorem readFraction_front (htail : Halts tail)
    (h : readFraction negative whole cs = .ok (v, [])) :
    readFraction negative whole (cs ++ tail) = .ok (v, tail) := by
  by_cases hpoint : cs.head? = some '.'
  · obtain ⟨cs, rfl⟩ := List.head?_eq_some_iff.mp hpoint
    obtain ⟨ds, behind, rfl, hds, hbehind⟩ := exists_digits cs
    cases ds with
    | nil =>
      rw [readFraction, spanDigits_append hds hbehind] at h
      cases behind <;> cases h
    | cons c ds =>
      obtain ⟨hc, hds⟩ := List.forall_mem_cons.mp hds
      rw [List.cons_append, readFraction_point hc hds hbehind] at h
      simp only [List.cons_append, List.append_assoc]
      rw [readFraction_point hc hds (htail.noDigit_append hbehind)]
      exact readScale_front htail h
  by_cases he : cs.head? = some 'e'
  · obtain ⟨cs, rfl⟩ := List.head?_eq_some_iff.mp he
    exact readExponent_front htail h
  by_cases hE : cs.head? = some 'E'
  · obtain ⟨cs, rfl⟩ := List.head?_eq_some_iff.mp hE
    exact readExponent_front htail h
  rw [readFraction_of_head_ne hpoint he hE] at h
  obtain ⟨rfl, hwhole⟩ := readWhole_eq_ok h
  rw [List.nil_append, readFraction_halts htail]
  exact hwhole tail

/-- A number that is read with nothing behind it is read with any other text behind it. -/
theorem readNumber_front (htail : Halts tail) (h : readNumber negative cs = .ok (v, [])) :
    readNumber negative (cs ++ tail) = .ok (v, tail) := by
  obtain ⟨c, body, rfl, hc, -⟩ := takes_readNumber h
  by_cases hzero : c = '0'
  · subst hzero
    have hbody : NoDigit body := by
      intro c hc
      obtain ⟨body, rfl⟩ := List.head?_eq_some_iff.mp hc
      by_contra hdigit
      rw [Bool.not_eq_false] at hdigit
      simp [readNumber, hdigit] at h
    rw [readNumber_zero hbody] at h
    rw [List.cons_append, readNumber_zero (htail.noDigit_append hbody)]
    exact readFraction_front htail h
  · obtain ⟨ds, behind, rfl, hds, hbehind⟩ := exists_digits body
    rw [readNumber_digits hzero hc hds hbehind] at h
    rw [List.cons_append, List.append_assoc,
      readNumber_digits hzero hc hds (htail.noDigit_append hbehind)]
    exact readFraction_front htail h

/-! ## Integers and doubles -/

theorem natOfDigits_digitsOf (n : Nat) : natOfDigits (Number.digitsOf n) = n :=
  Nat.ofDigitChars_ten_toDigits

theorem readNumber_digitsOf (n : Nat) (htail : Halts tail) :
    readNumber negative (Number.digitsOf n ++ tail) =
      readWhole negative (Number.digitsOf n) tail := by
  rcases Number.digitsOf_cases n with ⟨rfl, hdigits⟩ | ⟨c, ds, hdigits, hzero, hc, hds⟩
  · rw [hdigits, List.cons_append, List.nil_append, readNumber_zero htail.noDigit]
    exact readFraction_halts htail
  · rw [hdigits, List.cons_append, readNumber_digits hzero hc hds htail.noDigit]
    exact readFraction_halts htail

/-- The integers of data texts. -/
def Fits64 (n : Int) : Prop :=
  -(Number.signedLimit : Int) ≤ n ∧ n < Number.wordLimit

theorem fits64_word (w : UInt64) : Fits64 w.toNat := by
  have hw : w.toNat < Number.wordLimit := w.toNat_lt
  simp only [Fits64, Number.signedLimit, Number.wordLimit] at *
  omega

theorem readWhole_digitsOf {n : Int} (hn : Fits64 n) :
    readWhole (n < 0) (Number.digitsOf n.natAbs) tail = .ok (.int n, tail) := by
  obtain ⟨hlow, hhigh⟩ := hn
  have hword : n.natAbs < Number.wordLimit := by
    simp only [Number.signedLimit, Number.wordLimit] at *
    omega
  rw [readWhole, natOfDigits_digitsOf, if_neg (Nat.not_le.mpr hword)]
  by_cases hsign : n < 0
  · have hsigned : ¬ (n.natAbs = 0 ∨ Number.signedLimit < n.natAbs) := by
      simp only [Number.signedLimit] at *
      omega
    simp only [integerValue, hsign, decide_true, if_true, if_neg hsigned]
    rw [show -(n.natAbs : Int) = n by omega]
  · simp only [integerValue, hsign, decide_false, Bool.false_eq_true, if_false, if_pos hword]
    rw [show (n.natAbs : Int) = n by omega]

end number

theorem isGap_of_isDigit {c : Char} (hc : c.isDigit = true) : isGap c = false := by
  simp only [isGap, Bool.or_eq_false_iff, beq_eq_false_iff_ne, ne_eq]
  refine ⟨⟨⟨?_, ?_⟩, ?_⟩, ?_⟩
  all_goals
    rintro rfl
    exact absurd hc (by decide)

theorem skipGap_cons {c : Char} (hc : isGap c = false) (cs : List Char) :
    skipGap (c :: cs) = c :: cs :=
  List.dropWhile_cons_of_neg (by simp [hc])

theorem readValue_digit {c : Char} {cs : List Char} (hc : c.isDigit = true) :
    readValue 1 0 (c :: cs) = readNumber false (c :: cs) := by
  rw [readValue, skipGap_cons (isGap_of_isDigit hc)]
  split
  case h_9 heq =>
    obtain ⟨rfl, rfl⟩ := List.cons.inj heq
    rw [if_pos hc]
  case h_1 heq => cases heq
  all_goals
    next heq =>
    obtain ⟨rfl, -⟩ := List.cons.inj heq
    exact absurd hc (by decide)

theorem readValue_integer {n : Int} (hn : Fits64 n) {tail : List Char} (htail : Halts tail) :
    readValue 1 0 ((Number.integer n).toList ++ tail) = .ok (.int n, tail) := by
  have hread : readNumber (n < 0) (Number.digitsOf n.natAbs ++ tail) = .ok (.int n, tail) :=
    (readNumber_digitsOf _ htail).trans (readWhole_digitsOf hn)
  rw [Number.integer, String.toList_ofList]
  by_cases hsign : n < 0
  · simp only [hsign, decide_true, Number.minus, if_true] at hread ⊢
    exact hread
  · simp only [hsign, decide_false, Number.minus, Bool.false_eq_true, if_false,
      List.nil_append] at hread ⊢
    obtain ⟨c, cs, hcs⟩ := List.exists_cons_of_ne_nil
      (Nat.toDigits_ne_nil (b := 10) (n := n.natAbs))
    have hc : c.isDigit = true := Number.isDigit_of_mem_digitsOf (n := n.natAbs)
      (by rw [Number.digitsOf, hcs]; exact List.mem_cons_self)
    rw [Number.digitsOf, hcs, List.cons_append] at hread ⊢
    rw [readValue_digit hc, hread]

theorem isGap_of_isNumeral {c : Char} (hc : Number.IsNumeral c) : isGap c = false := by
  rcases hc with hc | hc
  · exact isGap_of_isDigit hc
  · simp only [List.mem_cons, List.not_mem_nil, or_false] at hc
    rcases hc with rfl | rfl | rfl | rfl <;> decide

/-- A double that is read back alone is read back in front of any text that begins otherwise. -/
theorem readValue_real {x : Binary64} (hx : parse (Number.data x) = .ok (.real x))
    {tail : List Char} (htail : Halts tail) :
    readValue 1 0 ((Number.data x).toList ++ tail) = .ok (.real x, tail) := by
  obtain ⟨rest, hread, hend⟩ := parse_eq_ok_iff.mp hx
  cases hread with
  | scalar hcs =>
    have hgap : ∀ c ∈ (Number.data x).toList, isGap c = false := fun c hc =>
      isGap_of_isNumeral (Number.isNumeral_of_mem_data x c hc)
    have hskip : ∀ cs : List Char, (∀ c ∈ cs, isGap c = false) → skipGap cs = cs := by
      rintro (_ | ⟨c, cs⟩) h
      · rfl
      · exact skipGap_cons (h c List.mem_cons_self) cs
    -- no gap can have been left behind the number
    have hrest : rest = [] := by
      obtain ⟨taken, htaken, -⟩ := takes_readValue hcs
      refine (hskip rest fun c hc => hgap c ?_).symm.trans hend
      rw [htaken]
      exact List.mem_append_right taken hc
    subst hrest
    obtain ⟨c, body, hfront, hv⟩ := readValue_cases hcs
    rw [hskip _ hgap] at hfront
    rw [hfront, List.cons_append]
    rcases hv with ⟨-, -, -, hv | ⟨b, hv⟩⟩ | ⟨-, s, hv, -⟩ | ⟨-, -, ⟨rfl, hnumber⟩ | ⟨hc, hnumber⟩⟩
    · cases hv
    · cases hv
    · cases hv
    · exact readNumber_front htail hnumber
    · rw [readValue_digit hc]
      exact readNumber_front htail hnumber

/-! ## Values -/

/-- A finite double whose text is read as the same double. -/
def ReadsBack (x : Binary64) : Prop :=
  x.IsFinite ∧ parse (Number.data x) = .ok (.real x)

mutual

/-- Every number in the value is read as it has been written. -/
def Faithful : Json → Prop
  | .int n => Fits64 n
  | .real x => ReadsBack x
  | .arr items => FaithfulItems items
  | .obj members => FaithfulMembers members
  | _ => True

def FaithfulItems : List Json → Prop
  | [] => True
  | v :: rest => Faithful v ∧ FaithfulItems rest

def FaithfulMembers : List (String × Json) → Prop
  | [] => True
  | (_, v) :: rest => Faithful v ∧ FaithfulMembers rest

end

theorem faithfulItems_iff {items : List Json} :
    FaithfulItems items ↔ ∀ v ∈ items, v.Faithful := by
  induction items with
  | nil => simp [FaithfulItems]
  | cons v items ih => simp [FaithfulItems, ih]

theorem faithfulMembers_iff {members : List (String × Json)} :
    FaithfulMembers members ↔ ∀ m ∈ members, m.2.Faithful := by
  induction members with
  | nil => simp [FaithfulMembers]
  | cons m members ih => simp [FaithfulMembers, ih]

mutual

/-- The containers in the value are nested to `depth` at most. -/
def Within : Nat → Json → Prop
  | depth, .arr items => 0 < depth ∧ WithinItems (depth - 1) items
  | depth, .obj members => 0 < depth ∧ WithinMembers (depth - 1) members
  | _, _ => True

def WithinItems : Nat → List Json → Prop
  | _, [] => True
  | depth, v :: rest => Within depth v ∧ WithinItems depth rest

def WithinMembers : Nat → List (String × Json) → Prop
  | _, [] => True
  | depth, (_, v) :: rest => Within depth v ∧ WithinMembers depth rest

end

theorem withinItems_iff {depth : Nat} {items : List Json} :
    WithinItems depth items ↔ ∀ v ∈ items, v.Within depth := by
  induction items with
  | nil => simp [WithinItems]
  | cons v items ih => simp [WithinItems, ih]

theorem withinMembers_iff {depth : Nat} {members : List (String × Json)} :
    WithinMembers depth members ↔ ∀ m ∈ members, m.2.Within depth := by
  induction members with
  | nil => simp [WithinMembers]
  | cons m members ih => simp [WithinMembers, ih]

/-- Texts with commas between them, and one more in front of the first unless it is `first`. -/
def separated (first : Bool) (texts : List (List Char)) : List Char :=
  if first then joinCommas texts else texts.flatMap (',' :: ·)

theorem separated_nil (first : Bool) : separated first [] = [] := by
  cases first <;> rfl

theorem separated_cons (first : Bool) (t : List Char) (texts : List (List Char)) :
    separated first (t :: texts) =
      (if first then [] else [',']) ++ (t ++ separated false texts) := by
  cases first with
  | false => rfl
  | true =>
    induction texts generalizing t with
    | nil => simp [separated, joinCommas]
    | cons u texts ih =>
      have hjoin : joinCommas (u :: texts) = u ++ separated false texts := ih u
      simp [separated, joinCommas, hjoin]

theorem halts_separated {close : Char} (hclose : Halts [close]) (texts : List (List Char))
    (tail : List Char) : Halts (separated false texts ++ close :: tail) := by
  cases texts with
  | nil => exact ⟨hclose.noDigit, hclose.noPoint, hclose.noMark, hclose.noCapital⟩
  | cons t texts => exact halts_cons (by decide) (by decide) (by decide) (by decide) _

theorem halts_bracket : Halts [']'] :=
  halts_cons (by decide) (by decide) (by decide) (by decide) []

theorem halts_brace : Halts ['\x7d'] :=
  halts_cons (by decide) (by decide) (by decide) (by decide) []

/-- No value begins with a closing bracket. -/
theorem Reading.front {depth : Nat} {v : Json} {cs rest : List Char}
    (h : Reading depth (.value v) cs rest) : ∃ c body, Json.skipGap cs = c :: body ∧ c ≠ ']' := by
  cases h with
  | list hcs => exact ⟨_, _, hcs, by decide⟩
  | object hcs => exact ⟨_, _, hcs, by decide⟩
  | scalar hcs =>
    obtain ⟨c, body, hfront, -⟩ := readValue_cases hcs
    refine ⟨c, body, hfront, ?_⟩
    rintro rfl
    rw [readValue, hfront] at hcs
    simp at hcs

theorem Reading.of_gap {depth : Nat} {v : Json} {cs rest : List Char}
    (h : Reading depth (.value v) cs rest) : Reading depth (.value v) (Json.skipGap cs) rest := by
  cases h with
  | list hcs hitems => exact .list (by rwa [skipGap_skipGap]) hitems
  | object hcs hmembers => exact .object (by rwa [skipGap_skipGap]) hmembers
  | scalar hcs =>
    refine .scalar ?_
    rw [readValue] at hcs ⊢
    rwa [skipGap_skipGap]

theorem entry_separated {close : Char} {cs : List Char} (first : Bool)
    (h : ∃ c body, skipGap cs = c :: body ∧ c ≠ close) :
    Entry close first ((if first then [] else [',']) ++ cs) (skipGap cs) := by
  cases first with
  | true => exact ⟨h, rfl⟩
  | false => exact ⟨h, cs, rfl, rfl⟩

mutual

/-- The text of a value is read as the value, in front of any text with which no number goes
on. -/
theorem reading_chars (v : Json) (hv : v.Faithful) {depth : Nat} (hdepth : v.Within depth)
    {tail : List Char} (htail : Halts tail) :
    Reading depth (.value v) (chars v ++ tail) tail := by
  match v with
  | .null => exact .scalar rfl
  | .bool true => exact .scalar rfl
  | .bool false => exact .scalar rfl
  | .int n => exact .scalar (readValue_integer hv htail)
  | .real x =>
    rw [chars, realChars, if_pos hv.1]
    exact .scalar (readValue_real hv.2 htail)
  | .str s =>
    refine .scalar ?_
    have hread := readString_escaped s tail
    simp only [chars, stringChars, List.cons_append, List.append_assoc, List.nil_append]
    rw [readValue]
    exact bind_eq_ok_iff.mpr ⟨_, hread, rfl⟩
  | .arr items =>
    obtain ⟨depth, rfl⟩ : ∃ n, depth = n + 1 := ⟨depth - 1, by have := hdepth.1; omega⟩
    have hitems := reading_itemChars items hv hdepth.2 true tail
    rw [chars, List.cons_append, List.append_assoc]
    exact .list rfl hitems
  | .obj members =>
    obtain ⟨depth, rfl⟩ : ∃ n, depth = n + 1 := ⟨depth - 1, by have := hdepth.1; omega⟩
    have hmembers := reading_memberChars members hv hdepth.2 true tail
    rw [chars, List.cons_append, List.append_assoc]
    exact .object rfl hmembers

theorem reading_itemChars (items : List Json) (hitems : FaithfulItems items) {depth : Nat}
    (hdepth : WithinItems depth items) (first : Bool) (tail : List Char) :
    Reading depth (.items first items) (separated first (itemChars items) ++ ']' :: tail) tail := by
  match items with
  | [] =>
    rw [itemChars, separated_nil]
    exact .noItem rfl
  | v :: rest =>
    have hv := reading_chars v hitems.1 hdepth.1
      (halts_separated halts_bracket (itemChars rest) tail)
    have hrest := reading_itemChars rest hitems.2 hdepth.2 false tail
    rw [itemChars, separated_cons, List.append_assoc, List.append_assoc]
    exact .item (entry_separated first hv.front) hv.of_gap hrest

theorem reading_memberChars (members : List (String × Json)) (hmembers : FaithfulMembers members)
    {depth : Nat} (hdepth : WithinMembers depth members) (first : Bool) (tail : List Char) :
    Reading depth (.members first members)
      (separated first (memberChars members) ++ '\x7d' :: tail) tail := by
  match members with
  | [] =>
    rw [memberChars, separated_nil]
    exact .noMember rfl
  | (key, v) :: rest =>
    have hv := reading_chars v hmembers.1 hdepth.1
      (halts_separated halts_brace (memberChars rest) tail)
    have hrest := reading_memberChars rest hmembers.2 hdepth.2 false tail
    rw [memberChars, separated_cons]
    simp only [List.append_assoc, List.cons_append]
    refine .member (entry_separated first ⟨'"', _, rfl, by decide⟩) ?_ hv hrest
    exact keyAt_stringChars key _

end

/-- What is written is read back. -/
theorem parse_render {v : Json} (hv : v.Faithful) (hdepth : v.Within maxDepth) :
    parse (render v) = .ok v := by
  have hread := reading_chars v hv hdepth Halts.nil
  rw [List.append_nil] at hread
  exact parse_eq_ok_iff.mpr ⟨[], by rwa [render, String.toList_ofList], rfl⟩

/-- A text is decoded as the same thing as it stands and by way of its sorted value. -/
def Decodes {α : Type} (decode : Json → Except Mismatch α) (text : String) (a : α) : Prop :=
  decodeStraight decode text = .ok a ∧ decodeSorted decode text = .ok a

theorem OrderBlind.decodes_render {α : Type} {decode : Json → Except Mismatch α}
    (blind : OrderBlind decode) {v : Json} (hv : v.Faithful) (hdepth : v.Within maxDepth)
    (hkeys : v.DistinctKeys) (hplain : v.Plain) {a : α} (ha : decode v = .ok a) :
    Decodes decode (render v) a := by
  have hparse := parse_render hv hdepth
  have hstraight : decodeStraight decode (render v) = .ok a :=
    decodeStraight_eq_ok_iff.mpr ⟨v, hparse, ha⟩
  refine ⟨hstraight, ?_⟩
  have hsame := blind.decode_text (fun w hw => Except.ok.inj (hparse.symm.trans hw) ▸ hkeys)
    fun w hw => Except.ok.inj (hparse.symm.trans hw) ▸ hplain
  rw [hstraight] at hsame
  exact toOption_eq_some_iff.mp hsame.symm

end FeedExplorer.Json
