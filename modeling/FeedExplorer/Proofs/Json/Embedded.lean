import FeedExplorer.Json.Embedded
import FeedExplorer.Proofs.Json.Reading

/-!
# Values with texts in them

What the objects stand for that embed a text, told on the value that the plain reader makes of it
all. Main statements: a text is read with its embedded texts opened just when the plain reader
makes a value of it in which they can all be opened, and then as the value that comes of it; where
no object begins with the key of such a text, both readers agree.
-/

namespace FeedExplorer.Json

/-! ## Opening a value -/

/-- The first member of the object is that of an embedded text. -/
def Embeds (members : List (String × Json)) : Prop :=
  members.head?.map (·.1) = some embeddedKey

instance (members : List (String × Json)) : Decidable (Embeds members) :=
  inferInstanceAs (Decidable (_ = _))

/-- The text of the first member, if it is a string and the only one. -/
def soleText? : List (String × Json) → Option String
  | [(_, .str text)] => some text
  | _ => none

mutual

/-- The value with the objects that embed texts replaced, given the values of the texts. There is
none if one of these has no value, is no text or has other members beside it. -/
def openWith (inner : String → Option Json) : Json → Option Json
  | .arr items => (openItems inner items).map .arr
  | .obj members =>
    if Embeds members then (soleText? members).bind inner
    else (openMembers inner members).map .obj
  | v => some v

def openItems (inner : String → Option Json) : List Json → Option (List Json)
  | [] => some []
  | v :: rest => do return (← openWith inner v) :: (← openItems inner rest)

def openMembers (inner : String → Option Json) :
    List (String × Json) → Option (List (String × Json))
  | [] => some []
  | (key, v) :: rest => do return (key, ← openWith inner v) :: (← openMembers inner rest)

end

mutual

/-- No object in the value begins with the key of an embedded text. -/
def Plain : Json → Prop
  | .arr items => PlainItems items
  | .obj members => ¬ Embeds members ∧ PlainMembers members
  | _ => True

def PlainItems : List Json → Prop
  | [] => True
  | v :: rest => Plain v ∧ PlainItems rest

def PlainMembers : List (String × Json) → Prop
  | [] => True
  | (_, v) :: rest => Plain v ∧ PlainMembers rest

end

theorem plainItems_iff {items : List Json} : PlainItems items ↔ ∀ v ∈ items, v.Plain := by
  induction items with
  | nil => simp [PlainItems]
  | cons v items ih => simp [PlainItems, ih]

theorem plainMembers_iff {members : List (String × Json)} :
    PlainMembers members ↔ ∀ m ∈ members, m.2.Plain := by
  induction members with
  | nil => simp [PlainMembers]
  | cons m members ih => simp [PlainMembers, ih]

theorem not_embeds_of_forall {members : List (String × Json)}
    (h : ∀ m ∈ members, m.1 ≠ embeddedKey) : ¬ Embeds members := by
  intro hembeds
  obtain ⟨m, hm, hkey⟩ := Option.map_eq_some_iff.mp hembeds
  exact h m (List.mem_of_mem_head? hm) hkey

mutual

theorem openWith_of_plain (inner : String → Option Json) :
    (v : Json) → v.Plain → openWith inner v = some v
  | .arr items, h => by
    rw [openWith, openItems_of_plain inner items h]
    rfl
  | .obj members, h => by
    rw [openWith, if_neg h.1, openMembers_of_plain inner members h.2]
    rfl
  | .null, _ => rfl
  | .bool _, _ => rfl
  | .int _, _ => rfl
  | .real _, _ => rfl
  | .str _, _ => rfl

theorem openItems_of_plain (inner : String → Option Json) :
    (items : List Json) → PlainItems items → openItems inner items = some items
  | [], _ => rfl
  | v :: items, h => by
    rw [openItems, openWith_of_plain inner v h.1, openItems_of_plain inner items h.2]
    rfl

theorem openMembers_of_plain (inner : String → Option Json) :
    (members : List (String × Json)) → PlainMembers members →
      openMembers inner members = some members
  | [], _ => rfl
  | (key, v) :: members, h => by
    rw [openMembers, openWith_of_plain inner v h.1, openMembers_of_plain inner members h.2]
    rfl

end

mutual

/-- The number of letters in the strings of a value, keys left out. -/
def letters : Json → Nat
  | .str s => s.length
  | .arr items => lettersOfItems items
  | .obj members => lettersOfMembers members
  | _ => 0

def lettersOfItems : List Json → Nat
  | [] => 0
  | v :: rest => letters v + lettersOfItems rest

def lettersOfMembers : List (String × Json) → Nat
  | [] => 0
  | (_, v) :: rest => letters v + lettersOfMembers rest

end

/-- The letters in what stands at the front of a text. -/
def Found.letters : Found → Nat
  | .value v => v.letters
  | .items _ vs => lettersOfItems vs
  | .members _ ms => lettersOfMembers ms

theorem eq_of_embeds {members : List (String × Json)} {text : String} (h : Embeds members)
    (htext : soleText? members = some text) : members = [(embeddedKey, .str text)] := by
  unfold soleText? at htext
  split at htext
  · obtain rfl := Option.some.inj htext
    obtain rfl := Option.some.inj h
    rfl
  · cases htext

theorem length_le_of_soleText? {members : List (String × Json)} {text : String}
    (h : soleText? members = some text) : text.length ≤ lettersOfMembers members := by
  unfold soleText? at h
  split at h
  · obtain rfl := Option.some.inj h
    exact Nat.le_add_right _ _
  · cases h

section congr

variable {inner inner' : String → Option Json}

mutual

/-- Of the texts, only those matter that are no longer than the strings of the value together. -/
theorem openWith_congr : (v : Json) →
    (∀ s : String, s.length ≤ v.letters → inner s = inner' s) →
      openWith inner v = openWith inner' v
  | .arr items, h => by rw [openWith, openWith, openItems_congr items h]
  | .obj members, h => by
    rw [openWith, openWith, openMembers_congr members h]
    cases htext : soleText? members with
    | none => rfl
    | some s => rw [Option.bind_some, Option.bind_some, h s (length_le_of_soleText? htext)]
  | .null, _ => rfl
  | .bool _, _ => rfl
  | .int _, _ => rfl
  | .real _, _ => rfl
  | .str _, _ => rfl

theorem openItems_congr : (items : List Json) →
    (∀ s : String, s.length ≤ lettersOfItems items → inner s = inner' s) →
      openItems inner items = openItems inner' items
  | [], _ => rfl
  | v :: items, h => by
    have hv := openWith_congr v fun s hs => h s (Nat.le_add_right_of_le hs)
    have hitems := openItems_congr items fun s hs => h s (Nat.le_add_left_of_le hs)
    rw [openItems, openItems, hv, hitems]

theorem openMembers_congr : (members : List (String × Json)) →
    (∀ s : String, s.length ≤ lettersOfMembers members → inner s = inner' s) →
      openMembers inner members = openMembers inner' members
  | [], _ => rfl
  | (key, v) :: members, h => by
    have hv := openWith_congr v fun s hs => h s (Nat.le_add_right_of_le hs)
    have hmembers := openMembers_congr members fun s hs => h s (Nat.le_add_left_of_le hs)
    rw [openMembers, openMembers, hv, hmembers]

end

end congr

/-! ## Strings and their length -/

theorem length_lt_of_readStringBody {fuel : Nat} {cs body rest : List Char}
    (h : readStringBody fuel cs = .ok (body, rest)) : body.length + rest.length < cs.length := by
  induction fuel generalizing cs body with
  | zero => cases h
  | succ fuel ih =>
    cases cs with
    | nil => cases h
    | cons c cs =>
      rw [readStringBody] at h
      split at h
      · obtain ⟨rfl, rfl⟩ := Prod.mk.inj (Except.ok.inj h)
        simp
      split at h
      · obtain ⟨⟨e, behind⟩, he, h⟩ := bind_eq_ok_iff.mp h
        obtain ⟨⟨tail, rest'⟩, htail, h⟩ := bind_eq_ok_iff.mp h
        obtain ⟨rfl, rfl⟩ := Prod.mk.inj (Except.ok.inj h)
        obtain ⟨taken, rfl, -⟩ := readEscape_eq_ok he
        have := ih htail
        simp only [List.length_cons, List.length_append]
        omega
      split at h
      · cases h
      obtain ⟨⟨tail, rest'⟩, htail, h⟩ := bind_eq_ok_iff.mp h
      obtain ⟨rfl, rfl⟩ := Prod.mk.inj (Except.ok.inj h)
      have := ih htail
      simp only [List.length_cons]
      omega

theorem length_lt_of_readString {cs rest : List Char} {s : String}
    (h : readString cs = .ok (s, rest)) : s.length + rest.length < cs.length := by
  obtain ⟨⟨body, rest'⟩, hbody, heq⟩ := bind_eq_ok_iff.mp h
  obtain ⟨rfl, rfl⟩ := Prod.mk.inj (Except.ok.inj heq)
  rw [String.length_ofList]
  exact length_lt_of_readStringBody hbody

/-- The strings of a value are part of its text. -/
theorem Reading.letters_lt {depth : Nat} {found : Found} {cs rest : List Char}
    (h : Reading depth found cs rest) : found.letters + rest.length < cs.length := by
  have hlength := h.length_lt
  induction h with
  | scalar hcs =>
    obtain ⟨c, body, hgap, hscalar⟩ := readValue_cases hcs
    obtain ⟨-, -, -, rfl | ⟨b, rfl⟩⟩ | ⟨rfl, s, rfl, hs⟩ | ⟨⟨n, rfl⟩ | ⟨x, rfl⟩, -⟩ := hscalar
    case inr.inl =>
      have hbody := length_lt_of_skipGap hgap
      exact (length_lt_of_readString hs).trans hbody
    all_goals simpa [Found.letters, Json.letters] using hlength
  | list hcs hitems ih => exact (ih hitems.length_lt).trans (length_lt_of_skipGap hcs)
  | object hcs hmembers ih => exact (ih hmembers.length_lt).trans (length_lt_of_skipGap hcs)
  | noItem hcs => rwa [Found.letters, lettersOfItems, Nat.zero_add]
  | noMember hcs => rwa [Found.letters, lettersOfMembers, Nat.zero_add]
  | item hcs hv hitems ihv ihitems =>
    have hplace := hcs.length_le
    have hvalue := ihv hv.length_lt
    have hmore := ihitems hitems.length_lt
    simp only [Found.letters, lettersOfItems] at hvalue hmore ⊢
    omega
  | member hcs hkey hv hmembers ihv ihmembers =>
    have hplace := hcs.length_le
    have hname := hkey.length_lt
    have hvalue := ihv hv.length_lt
    have hmore := ihmembers hmembers.length_lt
    simp only [Found.letters, lettersOfMembers] at hvalue hmore ⊢
    omega

/-! ## Texts in their objects -/

theorem readText_eq_ok_iff {expected : String} {cs rest : List Char} {s : String} :
    readText expected cs = .ok (s, rest) ↔ readValue 1 0 cs = .ok (.str s, rest) := by
  constructor
  · intro h
    unfold readText at h
    split at h
    · cases h
    · next body hcs =>
      rw [readValue, hcs]
      exact bind_eq_ok_iff.mpr ⟨_, h, rfl⟩
    · cases h
  · intro h
    obtain ⟨c, body, hgap, ⟨-, -, -, hv⟩ | ⟨rfl, s', hs, h⟩ | ⟨hv, -⟩⟩ := readValue_cases h
    · rcases hv with hv | ⟨b, hv⟩ <;> cases hv
    · obtain rfl := Json.str.inj hs
      rw [readText, hgap]
      exact h
    · rcases hv with ⟨n, hv⟩ | ⟨x, hv⟩ <;> cases hv

theorem readObjectEnd_eq_ok_iff {cs rest : List Char} :
    readObjectEnd cs = .ok rest ↔ skipGap cs = '\x7d' :: rest := by
  unfold readObjectEnd
  split
  · simp [*]
  · simp [*]
  · simp [*]
  · next hclose _ => exact iff_of_false nofun (hclose rest)

section object

variable {depth : Nat} {key : String} {cs place behind rest : List Char}

theorem pastEmbeddedKey_of_member (hcs : Entry '\x7d' true cs place)
    (hkey : readKey place = .ok (key, behind)) :
    pastEmbeddedKey cs = if key = embeddedKey then some behind else none := by
  rw [pastEmbeddedKey, nextMember_eq_some_iff.mpr hcs]
  simp only [hkey]

theorem pastEmbeddedKey_eq_some_iff :
    pastEmbeddedKey cs = some behind ↔
      ∃ place, Entry '\x7d' true cs place ∧ readKey place = .ok (embeddedKey, behind) := by
  constructor
  · intro h
    unfold pastEmbeddedKey at h
    split at h
    · next place hplace =>
      split at h
      · next key rest hkey =>
        obtain ⟨rfl, hrest⟩ := Option.ite_none_right_eq_some.mp h
        obtain rfl := Option.some.inj hrest
        exact ⟨place, nextMember_eq_some_iff.mp hplace, hkey⟩
      · cases h
    · cases h
  · rintro ⟨place, hcs, hkey⟩
    rw [pastEmbeddedKey_of_member hcs hkey, if_pos rfl]

theorem embeds_iff {members : List (String × Json)}
    (h : Reading depth (.members true members) cs rest) :
    Embeds members ↔ ∃ behind, pastEmbeddedKey cs = some behind := by
  cases h with
  | noMember hcs =>
    refine iff_of_false nofun ?_
    rintro ⟨behind, hpast⟩
    obtain ⟨place, hplace, -⟩ := pastEmbeddedKey_eq_some_iff.mp hpast
    have hnone : nextMember true cs = .ok none := nextMember_eq_none_iff.mpr ⟨_, hcs⟩
    rw [nextMember_eq_some_iff.mpr hplace] at hnone
    cases hnone
  | @member _ _ key v members _ place body middle _ hcs hkey _ _ =>
    obtain ⟨behind, hkey, -⟩ := hkey
    simp [Embeds, pastEmbeddedKey_of_member hcs hkey]

/-- Behind its key, an embedded text is read just when it is all that the object holds. -/
theorem readEmbedded_eq_ok_iff {inner : String → Except String Json} {w : Json}
    (hpast : pastEmbeddedKey cs = some behind) :
    readEmbedded inner behind = .ok (w, rest) ↔
      ∃ text, Reading depth (.members true [(embeddedKey, .str text)]) cs rest ∧
        inner text = .ok w := by
  obtain ⟨place, hplace, hkey⟩ := pastEmbeddedKey_eq_some_iff.mp hpast
  constructor
  · intro h
    obtain ⟨body, hcolon, h⟩ := bind_eq_ok_iff.mp h
    obtain ⟨⟨text, middle⟩, htext, h⟩ := bind_eq_ok_iff.mp h
    cases hw : inner text with
    | error words => simp [hw] at h
    | ok v =>
      simp only [hw] at h
      obtain ⟨rest', hend, h⟩ := bind_eq_ok_iff.mp h
      obtain ⟨rfl, rfl⟩ := Prod.mk.inj (Except.ok.inj h)
      refine ⟨text, ?_, hw⟩
      exact .member hplace ⟨behind, hkey, hcolon⟩ (.scalar (readText_eq_ok_iff.mp htext))
        (.noMember (readObjectEnd_eq_ok_iff.mp hend))
  · rintro ⟨text, hread, hw⟩
    cases hread with
    | @member _ _ _ _ _ _ place' body middle _ hplace' hkey' hv hend =>
      obtain ⟨behind', hkey', hcolon⟩ := hkey'
      have hsame := (nextMember_eq_some_iff.mpr hplace).symm.trans
        (nextMember_eq_some_iff.mpr hplace')
      obtain rfl := Option.some.inj (Except.ok.inj hsame)
      obtain ⟨-, rfl⟩ := Prod.mk.inj (Except.ok.inj (hkey.symm.trans hkey'))
      cases hv with
      | scalar hv =>
        cases hend with
        | noMember hend =>
          refine bind_eq_ok_iff.mpr ⟨body, hcolon, ?_⟩
          refine bind_eq_ok_iff.mpr ⟨(text, middle), readText_eq_ok_iff.mpr hv, ?_⟩
          simp only [hw]
          exact bind_eq_ok_iff.mpr ⟨rest, readObjectEnd_eq_ok_iff.mpr hend, rfl⟩

end object

/-! ## Opening while reading -/

/-- What is found stands at the front of a text, with embedded texts in it that can be opened. -/
def Found.Opened (inner : String → Option Json) (depth : Nat) (cs rest : List Char) : Found → Prop
  | .value w => ∃ v, Reading depth (.value v) cs rest ∧ openWith inner v = some w
  | .items first ws => ∃ vs, Reading depth (.items first vs) cs rest ∧ openItems inner vs = some ws
  | .members first ws =>
    ∃ vs, Reading depth (.members first vs) cs rest ∧ openMembers inner vs = some ws

/-- What the reader that opens embedded texts finds in some steps. -/
def Found.ReadOpened (inner : String → Except String Json) (fuel depth : Nat)
    (cs rest : List Char) : Found → Prop
  | .value v => readOpened inner fuel depth cs = .ok (v, rest)
  | .items first vs => readOpenedItems inner fuel depth first cs = .ok (vs, rest)
  | .members first ms => readOpenedMembers inner fuel depth first cs = .ok (ms, rest)

section reading

variable {inner : String → Except String Json} {fuel depth : Nat} {cs rest : List Char}

/-- Without a bracket in front nothing can be opened. -/
theorem readOpened_of_head (hlist : (skipGap cs).head? ≠ some '[')
    (hobject : (skipGap cs).head? ≠ some '\x7b') :
    readOpened inner (fuel + 1) depth cs = readValue 1 0 cs := by
  rw [readOpened]
  split <;> simp_all

theorem openWith_of_readValue {inner : String → Option Json} {v : Json}
    (h : readValue 1 0 cs = .ok (v, rest)) : openWith inner v = some v := by
  obtain ⟨harr, hobj⟩ := ne_container_of_readValue h
  cases v with
  | arr items => exact absurd rfl (harr items)
  | obj members => exact absurd rfl (hobj members)
  | _ => rfl

theorem readOpened_list_eq_ok_iff {body : List Char} {w : Json} (hcs : skipGap cs = '[' :: body) :
    readOpened inner (fuel + 1) depth cs = .ok (w, rest) ↔
      ∃ d ws, depth = d + 1 ∧ readOpenedItems inner fuel d true body = .ok (ws, rest) ∧
        .arr ws = w := by
  rw [readOpened, hcs]
  cases depth with
  | zero => simp
  | succ depth => simp [bind_eq_ok_iff, pure, Except.pure]

/-- An object that begins with the key of an embedded text is read in another way. -/
theorem readOpened_object_eq_ok_iff {body : List Char} {w : Json}
    (hcs : skipGap cs = '\x7b' :: body) :
    readOpened inner (fuel + 1) depth cs = .ok (w, rest) ↔
      ∃ d, depth = d + 1 ∧
        ((∃ behind, pastEmbeddedKey body = some behind ∧
            readEmbedded inner behind = .ok (w, rest)) ∨
          (pastEmbeddedKey body = none ∧
            ∃ ws, readOpenedMembers inner fuel d true body = .ok (ws, rest) ∧ .obj ws = w)) := by
  rw [readOpened, hcs]
  cases depth with
  | zero => simp
  | succ depth =>
    cases hpast : pastEmbeddedKey body <;> simp [hpast, bind_eq_ok_iff, pure, Except.pure]

theorem readOpenedItems_eq_ok_iff {first : Bool} {ws : List Json} :
    readOpenedItems inner (fuel + 1) depth first cs = .ok (ws, rest) ↔
      (ws = [] ∧ skipGap cs = ']' :: rest) ∨
        ∃ place w middle more, Entry ']' first cs place ∧
          readOpened inner fuel depth place = .ok (w, middle) ∧
          readOpenedItems inner fuel depth false middle = .ok (more, rest) ∧ ws = w :: more := by
  rw [readOpenedItems]
  constructor
  · intro h
    obtain ⟨place, hplace, h⟩ := bind_eq_ok_iff.mp h
    cases place with
    | none =>
      obtain ⟨rfl, rfl⟩ := Prod.mk.inj (Except.ok.inj h)
      obtain ⟨rest, hcs⟩ := nextItem_eq_none_iff.mp hplace
      rw [dropToken, hcs]
      exact .inl ⟨rfl, rfl⟩
    | some place =>
      obtain ⟨⟨w, middle⟩, hw, h⟩ := bind_eq_ok_iff.mp h
      obtain ⟨⟨more, rest'⟩, hmore, h⟩ := bind_eq_ok_iff.mp h
      obtain ⟨rfl, rfl⟩ := Prod.mk.inj (Except.ok.inj h)
      exact .inr ⟨place, w, middle, more, nextItem_eq_some_iff.mp hplace, hw, hmore, rfl⟩
  · rintro (⟨rfl, hcs⟩ | ⟨place, w, middle, more, hplace, hw, hmore, rfl⟩)
    · rw [nextItem_eq_none_iff.mpr ⟨_, hcs⟩]
      simp [dropToken, hcs, pure, Except.pure]
    · rw [nextItem_eq_some_iff.mpr hplace, ok_bind]
      exact bind_eq_ok_iff.mpr ⟨_, hw, bind_eq_ok_iff.mpr ⟨_, hmore, rfl⟩⟩

theorem readOpenedMembers_eq_ok_iff {first : Bool} {ws : List (String × Json)} :
    readOpenedMembers inner (fuel + 1) depth first cs = .ok (ws, rest) ↔
      (ws = [] ∧ skipGap cs = '\x7d' :: rest) ∨
        ∃ place key body w middle more, Entry '\x7d' first cs place ∧ KeyAt place key body ∧
          readOpened inner fuel depth body = .ok (w, middle) ∧
          readOpenedMembers inner fuel depth false middle = .ok (more, rest) ∧
          ws = (key, w) :: more := by
  rw [readOpenedMembers]
  constructor
  · intro h
    obtain ⟨place, hplace, h⟩ := bind_eq_ok_iff.mp h
    cases place with
    | none =>
      obtain ⟨rfl, rfl⟩ := Prod.mk.inj (Except.ok.inj h)
      obtain ⟨rest, hcs⟩ := nextMember_eq_none_iff.mp hplace
      rw [dropToken, hcs]
      exact .inl ⟨rfl, rfl⟩
    | some place =>
      obtain ⟨⟨key, behind⟩, hkey, h⟩ := bind_eq_ok_iff.mp h
      obtain ⟨body, hcolon, h⟩ := bind_eq_ok_iff.mp h
      obtain ⟨⟨w, middle⟩, hw, h⟩ := bind_eq_ok_iff.mp h
      obtain ⟨⟨more, rest'⟩, hmore, h⟩ := bind_eq_ok_iff.mp h
      obtain ⟨rfl, rfl⟩ := Prod.mk.inj (Except.ok.inj h)
      exact .inr ⟨place, key, body, w, middle, more, nextMember_eq_some_iff.mp hplace,
        ⟨behind, hkey, hcolon⟩, hw, hmore, rfl⟩
  · rintro (⟨rfl, hcs⟩ | ⟨place, key, body, w, middle, more, hplace, hkey, hw, hmore, rfl⟩)
    · rw [nextMember_eq_none_iff.mpr ⟨_, hcs⟩]
      simp [dropToken, hcs, pure, Except.pure]
    · obtain ⟨behind, hkey, hcolon⟩ := hkey
      rw [nextMember_eq_some_iff.mpr hplace, ok_bind]
      exact bind_eq_ok_iff.mpr ⟨_, hkey, bind_eq_ok_iff.mpr ⟨_, hcolon,
        bind_eq_ok_iff.mpr ⟨_, hw, bind_eq_ok_iff.mpr ⟨_, hmore, rfl⟩⟩⟩⟩

theorem opened_of_readOpened (found : Found) (h : found.ReadOpened inner fuel depth cs rest) :
    found.Opened (fun s => (inner s).toOption) depth cs rest := by
  induction fuel generalizing depth found cs rest with
  | zero => cases found <;> cases h
  | succ fuel ih =>
    cases found with
    | value w =>
      by_cases hlist : (skipGap cs).head? = some '['
      · obtain ⟨body, hcs⟩ := List.head?_eq_some_iff.mp hlist
        obtain ⟨depth, ws, rfl, hitems, rfl⟩ := (readOpened_list_eq_ok_iff hcs).mp h
        obtain ⟨vs, hvs, hopen⟩ := ih (.items true ws) hitems
        exact ⟨.arr vs, .list hcs hvs, by rw [openWith, hopen]; rfl⟩
      by_cases hobject : (skipGap cs).head? = some '\x7b'
      · obtain ⟨body, hcs⟩ := List.head?_eq_some_iff.mp hobject
        obtain ⟨depth, rfl, ⟨behind, hpast, hw⟩ | ⟨hpast, ws, hmembers, rfl⟩⟩ :=
          (readOpened_object_eq_ok_iff hcs).mp h
        · obtain ⟨text, hread, hw⟩ := (readEmbedded_eq_ok_iff hpast).mp hw
          refine ⟨.obj [(embeddedKey, .str text)], .object hcs hread, ?_⟩
          rw [openWith, if_pos (show Embeds [(embeddedKey, Json.str text)] from rfl)]
          exact toOption_eq_some_iff.mpr hw
        · obtain ⟨vs, hvs, hopen⟩ := ih (.members true ws) hmembers
          have hplain : ¬ Embeds vs := by simp [embeds_iff hvs, hpast]
          exact ⟨.obj vs, .object hcs hvs, by rw [openWith, if_neg hplain, hopen]; rfl⟩
      · rw [Found.ReadOpened, readOpened_of_head hlist hobject] at h
        exact ⟨w, .scalar h, openWith_of_readValue h⟩
    | items first ws =>
      obtain ⟨rfl, hcs⟩ | ⟨place, w, middle, more, hplace, hw, hmore, rfl⟩ :=
        readOpenedItems_eq_ok_iff.mp h
      · exact ⟨[], .noItem hcs, rfl⟩
      · obtain ⟨v, hv, hopen⟩ := ih (.value w) hw
        obtain ⟨vs, hvs, hopens⟩ := ih (.items false more) hmore
        exact ⟨v :: vs, .item hplace hv hvs, by rw [openItems, hopen, hopens]; rfl⟩
    | members first ws =>
      obtain ⟨rfl, hcs⟩ | ⟨place, key, body, w, middle, more, hplace, hkey, hw, hmore, rfl⟩ :=
        readOpenedMembers_eq_ok_iff.mp h
      · exact ⟨[], .noMember hcs, rfl⟩
      · obtain ⟨v, hv, hopen⟩ := ih (.value w) hw
        obtain ⟨vs, hvs, hopens⟩ := ih (.members false more) hmore
        refine ⟨(key, v) :: vs, .member hplace hkey hv hvs, ?_⟩
        rw [openMembers, hopen, hopens]
        rfl

/-- Two steps for each character are enough here too. -/
theorem readOpened_of_opened (found : Found)
    (h : found.Opened (fun s => (inner s).toOption) depth cs rest)
    (hfuel : 2 * cs.length ≤ fuel + 2 * rest.length) :
    found.ReadOpened inner fuel depth cs rest := by
  induction fuel generalizing depth found cs rest with
  | zero =>
    have hlength : rest.length < cs.length := by
      cases found <;> exact h.choose_spec.1.length_lt
    omega
  | succ fuel ih =>
    cases found with
    | value w =>
      obtain ⟨v, hv, hopen⟩ := h
      cases hv with
      | scalar hcs =>
        obtain ⟨hlist, hobject⟩ := head_of_readValue hcs
        obtain rfl := Option.some.inj ((openWith_of_readValue hcs).symm.trans hopen)
        exact (readOpened_of_head hlist hobject).trans hcs
      | list hcs hitems =>
        have hbody := length_lt_of_skipGap hcs
        obtain ⟨ws, hws, rfl⟩ := Option.map_eq_some_iff.mp hopen
        have hread := ih (.items true ws) ⟨_, hitems, hws⟩ (by omega)
        exact (readOpened_list_eq_ok_iff hcs).mpr ⟨_, ws, rfl, hread, rfl⟩
      | @object _ members _ body _ hcs hmembers =>
        have hbody := length_lt_of_skipGap hcs
        apply (readOpened_object_eq_ok_iff hcs).mpr
        rw [openWith] at hopen
        by_cases hembeds : Embeds members
        · obtain ⟨behind, hpast⟩ := (embeds_iff hmembers).mp hembeds
          rw [if_pos hembeds] at hopen
          obtain ⟨text, htext, hw⟩ := Option.bind_eq_some_iff.mp hopen
          obtain rfl : members = [(embeddedKey, .str text)] := eq_of_embeds hembeds htext
          have hread : readEmbedded inner behind = .ok (w, rest) :=
            (readEmbedded_eq_ok_iff hpast).mpr ⟨text, hmembers, toOption_eq_some_iff.mp hw⟩
          exact ⟨_, rfl, .inl ⟨behind, hpast, hread⟩⟩
        · have hpast : pastEmbeddedKey body = none := by
            rw [Option.eq_none_iff_forall_ne_some]
            exact fun behind hpast => hembeds ((embeds_iff hmembers).mpr ⟨behind, hpast⟩)
          rw [if_neg hembeds] at hopen
          obtain ⟨ws, hws, rfl⟩ := Option.map_eq_some_iff.mp hopen
          have hread := ih (.members true ws) ⟨_, hmembers, hws⟩ (by omega)
          exact ⟨_, rfl, .inr ⟨hpast, ws, hread, rfl⟩⟩
    | items first ws =>
      obtain ⟨vs, hvs, hopen⟩ := h
      apply readOpenedItems_eq_ok_iff.mpr
      cases hvs with
      | noItem hcs => exact .inl ⟨(Option.some.inj hopen).symm, hcs⟩
      | item hcs hv hitems =>
        have hplace := hcs.length_le
        have hvalue := hv.length_lt
        have hrest := hitems.length_lt
        obtain ⟨w, hw, hopen⟩ := Option.bind_eq_some_iff.mp hopen
        obtain ⟨more, hmore, hopen⟩ := Option.bind_eq_some_iff.mp hopen
        have hfirst := ih (.value w) ⟨_, hv, hw⟩ (by omega)
        have hothers := ih (.items false more) ⟨_, hitems, hmore⟩ (by omega)
        exact .inr ⟨_, w, _, more, hcs, hfirst, hothers, (Option.some.inj hopen).symm⟩
    | members first ws =>
      obtain ⟨vs, hvs, hopen⟩ := h
      apply readOpenedMembers_eq_ok_iff.mpr
      cases hvs with
      | noMember hcs => exact .inl ⟨(Option.some.inj hopen).symm, hcs⟩
      | member hcs hkey hv hmembers =>
        have hplace := hcs.length_le
        have hname := hkey.length_lt
        have hvalue := hv.length_lt
        have hrest := hmembers.length_lt
        obtain ⟨w, hw, hopen⟩ := Option.bind_eq_some_iff.mp hopen
        obtain ⟨more, hmore, hopen⟩ := Option.bind_eq_some_iff.mp hopen
        have hfirst := ih (.value w) ⟨_, hv, hw⟩ (by omega)
        have hothers := ih (.members false more) ⟨_, hmembers, hmore⟩ (by omega)
        exact .inr ⟨_, _, _, w, _, more, hcs, hkey, hfirst, hothers, (Option.some.inj hopen).symm⟩

end reading

/-! ## Whole texts -/

/-- With its embedded texts read as whole texts are, one level less deep. -/
theorem parseNested_succ_toOption (nesting : Nat) (text : String) :
    (parseNested (nesting + 1) text).toOption =
      (parse text).toOption.bind (openWith fun s => (parseNested nesting s).toOption) := by
  ext w
  simp only [toOption_eq_some_iff, Option.bind_eq_some_iff, parse_eq_ok_iff]
  have hinner : (fun s => ((parseNested nesting s).mapError (·.message s.toList)).toOption) =
      fun s => (parseNested nesting s).toOption := by
    funext s
    exact toOption_mapError _ _
  constructor
  · intro h
    rw [parseNested] at h
    obtain ⟨⟨w', rest⟩, hread, h⟩ := bind_eq_ok_iff.mp h
    obtain ⟨⟨⟩, hend, h⟩ := bind_eq_ok_iff.mp h
    obtain rfl := Except.ok.inj h
    obtain ⟨v, hv, hopen⟩ := opened_of_readOpened (.value w') hread
    rw [hinner] at hopen
    exact ⟨v, ⟨rest, hv, readEnd_eq_ok_iff.mp hend⟩, hopen⟩
  · rintro ⟨v, ⟨rest, hv, hend⟩, hopen⟩
    rw [← hinner] at hopen
    rw [parseNested]
    refine bind_eq_ok_iff.mpr ⟨(w, rest), ?_, ?_⟩
    · refine readOpened_of_opened (.value w) ⟨v, hv, hopen⟩ ?_
      rw [stepsFor]
      omega
    · exact bind_eq_ok_iff.mpr ⟨_, readEnd_eq_ok_iff.mpr hend, rfl⟩

theorem letters_lt_of_parse {text : String} {v : Json} (h : parse text = .ok v) :
    v.letters < text.length := by
  obtain ⟨rest, hv, -⟩ := parse_eq_ok_iff.mp h
  have hlength := hv.letters_lt
  rw [Found.letters, String.length_toList] at hlength
  omega

/-- Texts cannot be embedded in one another deeper than the length of the outermost. -/
theorem parseNested_toOption {nesting : Nat} {text : String} (h : text.length < nesting) :
    (parseNested nesting text).toOption = (parseOpened text).toOption := by
  induction nesting using Nat.strongRecOn generalizing text with
  | ind nesting ih =>
    obtain ⟨nesting, rfl⟩ : ∃ n, nesting = n + 1 := ⟨nesting - 1, by omega⟩
    rw [parseOpened, parseNested_succ_toOption, parseNested_succ_toOption]
    cases hparse : parse text with
    | error fault => rfl
    | ok v =>
      have hletters := letters_lt_of_parse hparse
      apply openWith_congr v
      intro s hs
      rw [ih nesting (Nat.lt_succ_self _) (by omega), ih text.length h (by omega)]

/-- The value with its embedded texts opened. -/
def opened? (v : Json) : Option Json :=
  openWith (fun s => (parseOpened s).toOption) v

theorem opened?_of_plain {v : Json} (h : v.Plain) : v.opened? = some v :=
  openWith_of_plain _ v h

theorem parseOpened_toOption (text : String) :
    (parseOpened text).toOption = (parse text).toOption.bind opened? := by
  rw [parseOpened, parseNested_succ_toOption]
  cases hparse : parse text with
  | error fault => rfl
  | ok v =>
    have hletters := letters_lt_of_parse hparse
    exact openWith_congr v fun s hs => parseNested_toOption (by omega)

theorem parseOpened_eq_ok_iff {text : String} {w : Json} :
    parseOpened text = .ok w ↔ ∃ v, parse text = .ok v ∧ v.opened? = some w := by
  rw [← toOption_eq_some_iff, parseOpened_toOption]
  simp only [Option.bind_eq_some_iff, toOption_eq_some_iff]

end FeedExplorer.Json
