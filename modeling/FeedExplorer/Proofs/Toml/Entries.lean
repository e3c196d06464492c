import FeedExplorer.Proofs.Number.Digits
import FeedExplorer.Proofs.Toml.Quoting
import FeedExplorer.Toml.Table
import Mathlib.Algebra.BigOperators.Group.List.Basic
import Mathlib.Data.List.Forall2
import Mathlib.Data.List.TakeDrop

/-!
# Reading plain settings texts

Settings texts that consist of one entry a line, each under a plain key of its own. Main statement:
such a text is read as the table of its entries, in their order.
-/

namespace FeedExplorer.Toml

/-! ## Integers -/

section digits

variable {ds rest : List Char} (hds : ∀ d ∈ ds, d.isDigit = true)

include hds

theorem takeFixed_digits (n : Nat) :
    takeFixed n (ds ++ '\n' :: rest) =
      if n ≤ ds.length then some (ds.take n, ds.drop n ++ '\n' :: rest) else none := by
  induction n generalizing ds with
  | zero => simp [takeFixed]
  | succ n ih =>
    cases ds with
    | nil => rfl
    | cons d ds =>
      obtain ⟨hd, hds⟩ := List.forall_mem_cons.mp hds
      rw [List.cons_append, takeFixed, if_pos hd, ih hds]
      by_cases hn : n ≤ ds.length <;> simp [hn]

theorem takeChar_digits {c : Char} (hdigit : c.isDigit = false) (hline : c ≠ '\n') :
    takeChar c (ds ++ '\n' :: rest) = none := by
  cases ds with
  | nil => simp [takeChar, hline]
  | cons d ds =>
    have hd := hds d List.mem_cons_self
    have hne : c ≠ d := by
      rintro rfl
      rw [hdigit] at hd
      cases hd
    simp [takeChar, hne]

theorem isDigit_of_mem_drop (n : Nat) : ∀ d ∈ ds.drop n, d.isDigit = true :=
  fun d hd => hds d (List.mem_of_mem_drop hd)

theorem takeDigits_digits (label : String) (after : Bool) :
    takeDigits Char.isDigit label after (ds ++ '\n' :: rest) = .ok (ds, '\n' :: rest) := by
  induction ds generalizing after with
  | nil => rfl
  | cons d ds ih =>
    obtain ⟨hd, hds⟩ := List.forall_mem_cons.mp hds
    rw [List.cons_append, takeDigits.eq_def]
    dsimp only
    rw [if_pos hd, ih hds]
    rfl

/-- Digits up to the end of a line are no date. -/
theorem takeDate_digits : takeDate (ds ++ '\n' :: rest) = none := by
  have hday : takeDay (ds ++ '\n' :: rest) = none := by
    rw [takeDay, takeFixed_digits hds]
    split
    · simp [takeChar_digits (isDigit_of_mem_drop hds 4)]
    · rfl
  have htime : takeTime (ds ++ '\n' :: rest) = none := by
    have hcolon : ∀ hours, takeTwo 0 23 (ds ++ '\n' :: rest) = some hours →
        takeChar ':' hours.2 = none := by
      intro hours h
      obtain ⟨⟨front, behind⟩, hfixed, h⟩ := Option.bind_eq_some_iff.mp h
      rw [takeFixed_digits hds] at hfixed
      split at hfixed
      · obtain ⟨rfl, rfl⟩ := Prod.mk.inj (Option.some.inj hfixed)
        dsimp only at h
        split at h
        · obtain rfl := Option.some.inj h
          exact takeChar_digits (isDigit_of_mem_drop hds 2) (by decide) (by decide)
        · cases h
      · cases hfixed
    rw [takeTime]
    cases hhours : takeTwo 0 23 (ds ++ '\n' :: rest) with
    | none => rfl
    | some hours => simp [hcolon hours hhours]
  rw [takeDate, hday]
  exact htime

theorem looksLikeDay_digits : looksLikeDay (ds ++ '\n' :: rest) = false := by
  have hdash : takeChar '-' (ds.drop 4 ++ '\n' :: rest) = none :=
    takeChar_digits (isDigit_of_mem_drop hds 4) (by decide) (by decide)
  rw [looksLikeDay, takeFixed_digits hds]
  split
  · next hsome =>
    split at hsome
    · obtain ⟨-, heq⟩ := Prod.mk.inj (Option.some.inj hsome)
      rw [heq] at hdash
      simp [takeChar] at hdash
    · cases hsome
  · rfl

end digits

theorem natOfBase_digits {ds : List Char} (hds : ∀ d ∈ ds, d.isDigit = true) :
    natOfBase 10 ds = Nat.ofDigitChars 10 ds 0 := by
  have hvalue : ∀ {d : Char}, d.isDigit = true →
      (Text.hexValue? d).getD 0 = d.toNat - '0'.toNat := by
    intro d hd
    have hbounds : '0' ≤ d ∧ d ≤ '9' := by
      simp only [Char.isDigit, Bool.and_eq_true, decide_eq_true_eq] at hd
      exact hd
    rw [Text.hexValue?, if_pos hbounds]
    rfl
  have hfold : ∀ n, ds.foldl (fun n c => 10 * n + (Text.hexValue? c).getD 0) n =
      Nat.ofDigitChars 10 ds n := by
    induction ds with
    | nil => exact fun n => rfl
    | cons d ds ih =>
      obtain ⟨hd, hds⟩ := List.forall_mem_cons.mp hds
      intro n
      rw [List.foldl_cons, ih hds, Nat.ofDigitChars_cons, hvalue hd]
  exact hfold 0

theorem natOfBase_digitsOf (n : Nat) : natOfBase 10 (Number.digitsOf n) = n := by
  rw [natOfBase_digits fun _ => Number.isDigit_of_mem_digitsOf]
  exact Nat.ofDigitChars_ten_toDigits

theorem fitInteger_ok {n : Nat} (hn : n < Number.signedLimit) (place rest : List Char) :
    fitInteger n place rest = .ok (.int n, rest) := by
  rw [fitInteger, if_neg (by omega), if_neg (by omega)]

theorem readDecimal_digitsOf {n : Nat} (hn : n < Number.signedLimit) (place rest : List Char) :
    readDecimal false place (Number.digitsOf n ++ '\n' :: rest) = .ok (.int n, '\n' :: rest) := by
  have hvalue := natOfBase_digitsOf n
  have hdigits : ∀ d ∈ Number.digitsOf n, d.isDigit = true :=
    fun _ => Number.isDigit_of_mem_digitsOf
  have htake : takeDigits Char.isDigit "integer" false (Number.digitsOf n ++ '\n' :: rest) =
      .ok (Number.digitsOf n, '\n' :: rest) := takeDigits_digits hdigits _ _
  rcases Number.digitsOf_cases n with ⟨rfl, hzero⟩ | ⟨c, ds, hds, hzero, -⟩
  · rw [hzero]
    rfl
  · rw [hds] at htake hvalue ⊢
    rw [readDecimal]
    · rw [htake, Json.ok_bind]
      simp [readFraction, readExponent, hvalue, fitInteger_ok hn, pure, Except.pure]
    · rintro rest' heq
      exact hzero (List.cons.inj heq).1

theorem readNumber_digitsOf {n : Nat} (hn : n < Number.signedLimit) (rest : List Char) :
    readNumber (Number.digitsOf n ++ '\n' :: rest) = .ok (.int n, '\n' :: rest) := by
  have hdigits : ∀ d ∈ Number.digitsOf n, d.isDigit = true :=
    fun _ => Number.isDigit_of_mem_digitsOf
  rw [readNumber.eq_def, takeDate_digits hdigits]
  dsimp only
  rw [looksLikeDay_digits hdigits, if_neg (by decide),
    ← readDecimal_digitsOf hn (Number.digitsOf n ++ '\n' :: rest) rest]
  rcases Number.digitsOf_cases n with ⟨rfl, hzero⟩ | ⟨c, ds, hds, hzero, hc, -⟩
  · rw [hzero]
    rfl
  · rw [hds]
    split
    case h_6 => rfl
    all_goals
      next heq =>
      obtain ⟨rfl, -⟩ := List.cons.inj heq
      first
        | exact absurd rfl hzero
        | exact absurd hc (by decide)

/-- What begins with a digit is a number. -/
theorem readValue_digit {c : Char} (hc : c.isDigit = true) (fuel depth : Nat) (cs : List Char) :
    readValue (fuel + 1) depth (c :: cs) = readNumber (c :: cs) := by
  have hopening : opening? (c :: cs) = none := by
    unfold opening?
    split
    case h_5 => rfl
    all_goals
      next heq =>
      obtain ⟨rfl, -⟩ := List.cons.inj heq
      exact absurd hc (by decide)
  rw [readValue.eq_def]
  dsimp only
  rw [hopening]
  dsimp only
  split
  case h_9 heq =>
    obtain ⟨rfl, rfl⟩ := List.cons.inj heq
    rw [if_pos (.inl hc)]
  case h_10 heq => cases heq
  all_goals
    next heq =>
    obtain ⟨rfl, -⟩ := List.cons.inj heq
    exact absurd hc (by decide)

/-- The digits of an integer are read up to the end of their line. -/
theorem readValue_digitsOf {n : Nat} (hn : n < Number.signedLimit) (fuel depth : Nat)
    (rest : List Char) :
    readValue (fuel + 1) depth (Number.digitsOf n ++ '\n' :: rest) =
      .ok (.int n, '\n' :: rest) := by
  rw [← readNumber_digitsOf hn]
  obtain ⟨c, ds, hds⟩ := List.exists_cons_of_ne_nil (Nat.toDigits_ne_nil (b := 10) (n := n))
  have hc : c.isDigit = true := Number.isDigit_of_mem_digitsOf (n := n)
    (by rw [Number.digitsOf, hds]; exact List.mem_cons_self)
  rw [Number.digitsOf, hds]
  exact readValue_digit hc fuel depth _

/-! ## Lines -/

/-- One entry of a settings text: its key, and its value with the text that it is given by. -/
structure Line where
  key : String
  text : List Char
  value : Value

namespace Line

def chars (l : Line) : List Char :=
  l.key.toList ++ [' ', '=', ' '] ++ l.text ++ ['\n']

/-- The key needs no quotes, and the text is read as the value up to the end of the line. -/
structure Readable (l : Line) : Prop where
  key_ne : l.key.toList ≠ []
  key : ∀ c ∈ l.key.toList, isKeyChar c = true
  front : ∀ c, l.text.head? = some c → isSpace c = false
  value : ∀ fuel depth rest,
    readValue (fuel + 1) depth (l.text ++ '\n' :: rest) = .ok (l.value, '\n' :: rest)

/-- The item is the entry of the line. -/
def Gives (l : Line) (item : Item) : Prop :=
  ∃ start valueStart width, item = .entry [l.key] l.value start valueStart width

/-- The value of the line is kept under its key. -/
def Keeps (l : Line) (entry : String × Node) : Prop :=
  ∃ start width, entry = (l.key, .value l.value start width)

variable {l : Line} {ls : List Line}

theorem Readable.exists_cons (h : l.Readable) :
    ∃ c key, l.key.toList = c :: key ∧ isKeyChar c = true := by
  obtain ⟨c, key, hkey⟩ := List.exists_cons_of_ne_nil h.key_ne
  exact ⟨c, key, hkey, h.key c (by rw [hkey]; exact List.mem_cons_self)⟩

theorem isSpace_of_isKeyChar {c : Char} (hc : isKeyChar c = true) : isSpace c = false := by
  rw [isSpace, Bool.or_eq_false_iff, beq_eq_false_iff_ne, beq_eq_false_iff_ne]
  constructor
  all_goals
    rintro rfl
    exact absurd hc (by decide)

theorem skipSpaces_cons {c : Char} (hc : isSpace c = false) (cs : List Char) :
    skipSpaces (c :: cs) = c :: cs :=
  List.dropWhile_cons_of_neg (by simp [hc])

theorem Readable.readKeyPart (h : l.Readable) (rest : List Char) :
    readKeyPart (l.key.toList ++ ' ' :: rest) = .ok (l.key, ' ' :: rest) := by
  have hspan : (l.key.toList ++ ' ' :: rest).span isKeyChar = (l.key.toList, ' ' :: rest) := by
    rw [List.span_eq_takeWhile_dropWhile, List.takeWhile_append_of_pos h.key,
      List.dropWhile_append_of_pos h.key, List.takeWhile_cons_of_neg (by decide),
      List.dropWhile_cons_of_neg (by decide), List.append_nil]
  obtain ⟨c, key, hkey, hc⟩ := h.exists_cons
  rw [Toml.readKeyPart.eq_def]
  split
  case h_3 =>
    rw [hspan]
    dsimp only
    rw [if_neg (by simpa using h.key_ne), String.ofList_toList]
  all_goals
    next heq =>
    rw [hkey] at heq
    obtain ⟨rfl, -⟩ := List.cons.inj heq
    exact absurd hc (by decide)

theorem Readable.skipSpaces_front (h : l.Readable) (rest : List Char) :
    skipSpaces (l.key.toList ++ rest) = l.key.toList ++ rest := by
  obtain ⟨c, key, hkey, hc⟩ := h.exists_cons
  rw [hkey]
  exact skipSpaces_cons (isSpace_of_isKeyChar hc) _

theorem Readable.readKey (h : l.Readable) (rest : List Char) :
    readKey (l.key.toList ++ ' ' :: '=' :: rest) = .ok ([l.key], '=' :: rest) := by
  have hparts : ∀ fuel, readKeyParts (fuel + 1) (l.key.toList ++ ' ' :: '=' :: rest) =
      .ok ([l.key], '=' :: rest) := by
    intro fuel
    rw [readKeyParts, h.skipSpaces_front, h.readKeyPart, Json.ok_bind]
    rfl
  rw [Toml.readKey, hparts]
  rfl

/-- The line at the front of a text is read as its entry. -/
theorem Readable.readLine (h : l.Readable) (rest : List Char) :
    ∃ item, l.Gives item ∧ readLine (l.chars ++ rest) = .ok (some item, rest) := by
  have hplace : skipSpaces (' ' :: (l.text ++ '\n' :: rest)) = l.text ++ '\n' :: rest := by
    rw [skipSpaces, List.dropWhile_cons_of_pos (by decide)]
    cases htext : l.text with
    | nil => rfl
    | cons c text => exact skipSpaces_cons (h.front c (by rw [htext]; rfl)) _
  have hentry : ∃ start valueStart width, readEntry (l.chars ++ rest) =
      .ok (.entry [l.key] l.value start valueStart width, rest) := by
    simp only [chars, List.append_assoc, List.cons_append, List.nil_append]
    rw [readEntry, h.readKey, Json.ok_bind]
    dsimp only
    split
    · next heq =>
      obtain ⟨-, rfl⟩ := List.cons.inj heq
      rw [hplace, h.value, Json.ok_bind]
      exact ⟨_, _, _, rfl⟩
    · next hother => exact absurd rfl (hother _)
  obtain ⟨start, valueStart, width, hentry⟩ := hentry
  refine ⟨_, ⟨start, valueStart, width, rfl⟩, ?_⟩
  obtain ⟨c, key, hkey, hc⟩ := h.exists_cons
  have hfront : l.chars ++ rest = c :: (key ++ [' ', '=', ' '] ++ l.text ++ ['\n'] ++ rest) := by
    rw [chars, hkey]
    rfl
  have hnewline : newline? (l.chars ++ rest) = none := by
    rw [newline?.eq_def, hfront]
    split
    case h_3 => rfl
    all_goals
      next heq =>
      obtain ⟨rfl, -⟩ := List.cons.inj heq
      exact absurd hc (by decide)
  rw [Toml.readLine.eq_def]
  split
  case h_4 =>
    rw [hnewline, hentry]
    rfl
  all_goals
    next heq =>
    rw [hfront] at heq
    obtain ⟨rfl, -⟩ := List.cons.inj heq
    exact absurd hc (by decide)

/-- Readable lines are read one after another. -/
theorem readLines_flatMap (h : ∀ l ∈ ls, l.Readable) {fuel : Nat} (hfuel : ls.length < fuel) :
    ∃ items, List.Forall₂ Gives ls items ∧ readLines fuel (ls.flatMap chars) = (items, none) := by
  induction ls generalizing fuel with
  | nil =>
    obtain ⟨fuel, rfl⟩ : ∃ n, fuel = n + 1 := ⟨fuel - 1, by simp at hfuel; omega⟩
    exact ⟨[], .nil, rfl⟩
  | cons l ls ih =>
    obtain ⟨hl, hls⟩ := List.forall_mem_cons.mp h
    rw [List.length_cons] at hfuel
    obtain ⟨fuel, rfl⟩ : ∃ n, fuel = n + 1 := ⟨fuel - 1, by omega⟩
    obtain ⟨item, hitem, hread⟩ := hl.readLine (ls.flatMap chars)
    obtain ⟨items, hitems, hmore⟩ := ih hls (show ls.length < fuel by omega)
    have hspaces : skipSpaces (l.chars ++ ls.flatMap chars) = l.chars ++ ls.flatMap chars := by
      simp only [chars, List.append_assoc]
      exact hl.skipSpaces_front _
    refine ⟨item :: items, .cons hitem hitems, ?_⟩
    rw [List.flatMap_cons, readLines, hspaces]
    split
    · next hnil => simp [chars] at hnil
    · rw [hread]
      dsimp only
      rw [hmore]
      rfl

theorem length_le_length_flatMap (ls : List Line) : ls.length ≤ (ls.flatMap chars).length := by
  have hlengths : ∀ n ∈ ls.map fun l => l.chars.length, 1 ≤ n := by
    refine List.forall_mem_map.mpr fun l _ => ?_
    simp only [chars, List.length_append, List.length_cons]
    omega
  have hsum := List.length_le_sum_of_one_le _ hlengths
  rwa [List.length_map, ← List.length_flatMap] at hsum

theorem readItemsOf_flatMap (h : ∀ l ∈ ls, l.Readable) :
    ∃ items, List.Forall₂ Gives ls items ∧ readItemsOf (ls.flatMap chars) = (items, none) := by
  obtain ⟨items, hitems, hread⟩ := readLines_flatMap h
    (Nat.lt_succ_of_le (length_le_length_flatMap ls))
  refine ⟨items, hitems, ?_⟩
  rw [readItemsOf.eq_def]
  split
  · next heq =>
    cases ls with
    | nil => cases heq
    | cons l ls =>
      obtain ⟨c, key, hkey, hc⟩ := (h l List.mem_cons_self).exists_cons
      rw [List.flatMap_cons, chars, hkey] at heq
      obtain ⟨rfl, -⟩ := List.cons.inj heq
      exact absurd hc (by decide)
  · exact hread

/-! ## Tables -/

/-- An entry under a key that is still free comes behind the others. -/
theorem addEntry_fresh {key : String} {root : Entries} (hkey : root.lookup key = none)
    (v : Value) (start valueStart width : Nat) :
    addEntry [] [key] v start valueStart width root =
      .ok (root ++ [(key, .value v valueStart width)]) := by
  simp [addEntry, splitLast, changeAt, hkey]

theorem lookup_eq_none {key : String} {root : Entries} (hkey : key ∉ root.map (·.1)) :
    root.lookup key = none := by
  rw [List.lookup_eq_none_iff]
  rintro ⟨k, node⟩ hmem
  rw [bne_iff_ne]
  rintro rfl
  exact hkey (List.mem_map_of_mem hmem)

/-- The entries of lines under keys of their own come behind those that are there. -/
theorem build_gives {items : List Item} (hitems : List.Forall₂ Gives ls items) (root : Entries)
    (hkeys : (root.map (·.1) ++ ls.map (·.key)).Nodup) :
    ∃ entries, List.Forall₂ Keeps ls entries ∧ build [] items root = .ok (root ++ entries) := by
  induction hitems generalizing root with
  | nil => exact ⟨[], .nil, by rw [build, List.append_nil]⟩
  | @cons l item ls items hitem _ ih =>
    obtain ⟨start, valueStart, width, rfl⟩ := hitem
    have hfresh : root.lookup l.key = none := by
      refine lookup_eq_none fun hmem => ?_
      exact (List.nodup_append.mp hkeys).2.2 _ hmem _ List.mem_cons_self rfl
    have hkeys : ((root ++ [(l.key, Node.value l.value valueStart width)]).map (·.1) ++
        ls.map (·.key)).Nodup := by
      simpa using hkeys
    obtain ⟨entries, hentries, hbuild⟩ := ih _ hkeys
    refine ⟨_ :: entries, .cons ⟨valueStart, width, rfl⟩ hentries, ?_⟩
    rw [build, addEntry_fresh hfresh]
    dsimp only
    rw [hbuild, List.append_assoc]
    rfl

/-- Lines under keys of their own are read as the table of their values. -/
theorem parse_flatMap (h : ∀ l ∈ ls, l.Readable) (hkeys : (ls.map (·.key)).Nodup) :
    ∃ entries, List.Forall₂ Keeps ls entries ∧ parse (ls.flatMap chars) = .ok entries := by
  obtain ⟨items, hitems, hread⟩ := readItemsOf_flatMap h
  obtain ⟨entries, hentries, hbuild⟩ := build_gives hitems [] hkeys
  refine ⟨entries, hentries, ?_⟩
  rw [parse, hread]
  dsimp only
  rw [hbuild]
  rfl

end Line

end FeedExplorer.Toml
