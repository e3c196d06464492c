import FeedExplorer.Proofs.Json.Token

/-!
# What a text is read as

The steps of the reader as a relation between texts, without a bound on their number. Main
statements: the reader takes just the steps of the relation when it is given enough of them, and
the text of a value that has been read in the middle of another one is read alone as that value.
-/

namespace FeedExplorer.Json

/-! ## Places in lists and objects -/

/-- The place of the next item or member of a container that `close` ends, or `none` at its end;
the faults are those of a text that ends and of a missing comma. -/
def nextEntry (close : Char) (atEnd noComma : Fault.Cause) (first : Bool) (cs : List Char) :
    Except Fault (Option (List Char)) :=
  match skipGap cs with
  | [] => .error (.atNext atEnd [])
  | c :: rest =>
    if c = close then .ok none
    else if first then .ok (some (c :: rest))
    else if c = ',' then
      match skipGap rest with
      | [] => .error (.atNext .endInValue [])
      | d :: rest =>
        if d = close then .error (.atNext .trailingComma (d :: rest)) else .ok (some (d :: rest))
    else .error (.atNext noComma (c :: rest))

theorem nextItem_eq : nextItem = nextEntry ']' .endInList .expectedListCommaOrEnd := by
  funext first cs
  unfold nextItem nextEntry
  rcases skipGap cs with _ | ⟨c, rest⟩
  · rfl
  by_cases hclose : c = ']'
  · subst hclose; rfl
  by_cases hcomma : c = ','
  · subst hcomma
    rcases hmore : skipGap rest with _ | ⟨d, more⟩
    · simp [hmore]
    · by_cases hd : d = ']' <;> simp [hmore, hd]
  · simp [hclose, hcomma]

theorem nextMember_eq : nextMember = nextEntry '\x7d' .endInObject .expectedObjectCommaOrEnd := by
  funext first cs
  unfold nextMember nextEntry
  rcases skipGap cs with _ | ⟨c, rest⟩
  · rfl
  by_cases hclose : c = '\x7d'
  · subst hclose; rfl
  by_cases hcomma : c = ','
  · subst hcomma
    rcases hmore : skipGap rest with _ | ⟨d, more⟩
    · simp [hmore]
    · by_cases hd : d = '\x7d' <;> simp [hmore, hd]
  · simp [hclose, hcomma]

/-- The next item or member of a container that `close` ends stands at `place`, behind a comma if
it is not the first. -/
def Entry (close : Char) (first : Bool) (cs place : List Char) : Prop :=
  (∃ c body, place = c :: body ∧ c ≠ close) ∧
    if first then skipGap cs = place else ∃ more, skipGap cs = ',' :: more ∧ skipGap more = place

section entry

variable {close : Char} {atEnd noComma : Fault.Cause} {first : Bool} {cs place : List Char}

theorem nextEntry_eq_none_iff :
    nextEntry close atEnd noComma first cs = .ok none ↔ ∃ rest, skipGap cs = close :: rest := by
  unfold nextEntry
  split
  · simp [*]
  · next c rest hcs =>
    split
    · next hc => simp [hcs, hc]
    · next hc =>
      refine iff_of_false (fun h => ?_) (by simp [hcs, hc])
      split at h
      · cases h
      · split at h
        · split at h
          · cases h
          · split at h <;> cases h
        · cases h

theorem nextEntry_eq_some_iff (hclose : ',' ≠ close) :
    nextEntry close atEnd noComma first cs = .ok (some place) ↔ Entry close first cs place := by
  constructor
  · intro h
    unfold nextEntry at h
    split at h
    · cases h
    next c rest hcs =>
    split at h
    · cases h
    next hc =>
    split at h
    · next hfirst =>
      obtain rfl := Option.some.inj (Except.ok.inj h)
      exact ⟨⟨c, rest, rfl, hc⟩, by rw [if_pos hfirst, hcs]⟩
    next hfirst =>
    split at h
    · next hcomma =>
      split at h
      · cases h
      next d more hmore =>
      split at h
      · cases h
      next hd =>
      obtain rfl := Option.some.inj (Except.ok.inj h)
      refine ⟨⟨d, more, rfl, hd⟩, ?_⟩
      rw [if_neg hfirst]
      exact ⟨rest, hcomma ▸ hcs, hmore⟩
    · cases h
  · rintro ⟨⟨c, body, rfl, hc⟩, hbehind⟩
    cases first with
    | true => simp [nextEntry, show skipGap cs = c :: body from hbehind, hc]
    | false =>
      obtain ⟨more, hcs, hmore⟩ := hbehind
      simp [nextEntry, hcs, hmore, hc, hclose]

/-- An entry keeps its place when the text goes on otherwise behind its first character. -/
theorem Entry.cut (h : Entry close first cs place) :
    ∃ front c body, place = c :: body ∧ cs = front ++ place ∧
      ∀ tail, Entry close first (front ++ c :: tail) (c :: tail) := by
  obtain ⟨⟨c, body, rfl, hc⟩, hbehind⟩ := h
  cases first with
  | true =>
    obtain ⟨gap, rfl, hgap⟩ := exists_gap hbehind
    exact ⟨gap, c, body, rfl, rfl, fun tail => ⟨⟨c, tail, rfl, hc⟩, hgap tail⟩⟩
  | false =>
    obtain ⟨more, hcs, hmore⟩ := hbehind
    obtain ⟨before, rfl, hbefore⟩ := exists_gap hcs
    obtain ⟨after, rfl, hafter⟩ := exists_gap hmore
    refine ⟨before ++ ',' :: after, c, body, rfl, by simp, fun tail => ⟨⟨c, tail, rfl, hc⟩, ?_⟩⟩
    refine ⟨after ++ c :: tail, ?_, hafter tail⟩
    rw [List.append_assoc]
    exact hbefore _

theorem Entry.length_le (h : Entry close first cs place) : place.length ≤ cs.length := by
  obtain ⟨front, c, body, -, rfl, -⟩ := h.cut
  simp

end entry

theorem nextItem_eq_none_iff {first : Bool} {cs : List Char} :
    nextItem first cs = .ok none ↔ ∃ rest, skipGap cs = ']' :: rest := by
  rw [nextItem_eq, nextEntry_eq_none_iff]

theorem nextItem_eq_some_iff {first : Bool} {cs place : List Char} :
    nextItem first cs = .ok (some place) ↔ Entry ']' first cs place := by
  rw [nextItem_eq, nextEntry_eq_some_iff (by decide)]

theorem nextMember_eq_none_iff {first : Bool} {cs : List Char} :
    nextMember first cs = .ok none ↔ ∃ rest, skipGap cs = '\x7d' :: rest := by
  rw [nextMember_eq, nextEntry_eq_none_iff]

theorem nextMember_eq_some_iff {first : Bool} {cs place : List Char} :
    nextMember first cs = .ok (some place) ↔ Entry '\x7d' first cs place := by
  rw [nextMember_eq, nextEntry_eq_some_iff (by decide)]

/-! ## The steps of the reader -/

/-- What can stand at the front of a text: a value, or what is left of a list or an object up to
its closing bracket, whose first item or member is still to come or not. -/
inductive Found where
  | value (v : Json)
  | items (first : Bool) (items : List Json)
  | members (first : Bool) (members : List (String × Json))

/-- A key with its colon stands at the front of a text. -/
def KeyAt (cs : List Char) (key : String) (rest : List Char) : Prop :=
  ∃ behind, readKey cs = .ok (key, behind) ∧ readColon behind = .ok rest

/-- `Reading depth found cs rest` tells that `found` stands at the front of `cs`, with `rest`
behind it and with containers nested to `depth` at most. -/
inductive Reading : Nat → Found → List Char → List Char → Prop where
  | scalar {depth : Nat} {v : Json} {cs rest : List Char} (hcs : readValue 1 0 cs = .ok (v, rest)) :
      Reading depth (.value v) cs rest
  | list {depth : Nat} {items : List Json} {cs body rest : List Char}
      (hcs : skipGap cs = '[' :: body) (hitems : Reading depth (.items true items) body rest) :
      Reading (depth + 1) (.value (.arr items)) cs rest
  | object {depth : Nat} {members : List (String × Json)} {cs body rest : List Char}
      (hcs : skipGap cs = '\x7b' :: body)
      (hmembers : Reading depth (.members true members) body rest) :
      Reading (depth + 1) (.value (.obj members)) cs rest
  | noItem {depth : Nat} {first : Bool} {cs rest : List Char} (hcs : skipGap cs = ']' :: rest) :
      Reading depth (.items first []) cs rest
  | item {depth : Nat} {first : Bool} {v : Json} {items : List Json}
      {cs place middle rest : List Char} (hcs : Entry ']' first cs place)
      (hv : Reading depth (.value v) place middle)
      (hitems : Reading depth (.items false items) middle rest) :
      Reading depth (.items first (v :: items)) cs rest
  | noMember {depth : Nat} {first : Bool} {cs rest : List Char}
      (hcs : skipGap cs = '\x7d' :: rest) : Reading depth (.members first []) cs rest
  | member {depth : Nat} {first : Bool} {key : String} {v : Json} {members : List (String × Json)}
      {cs place body middle rest : List Char} (hcs : Entry '\x7d' first cs place)
      (hkey : KeyAt place key body) (hv : Reading depth (.value v) body middle)
      (hmembers : Reading depth (.members false members) middle rest) :
      Reading depth (.members first ((key, v) :: members)) cs rest

/-- What the reader finds in some steps. -/
def Found.Read (fuel depth : Nat) (cs rest : List Char) : Found → Prop
  | .value v => readValue fuel depth cs = .ok (v, rest)
  | .items first vs => readItems fuel depth first cs = .ok (vs, rest)
  | .members first ms => readMembers fuel depth first cs = .ok (ms, rest)

section reading

variable {fuel depth : Nat} {found : Found} {cs rest : List Char} {v : Json}

/-- Without a bracket in front, neither the number of steps nor the depth matters. -/
theorem readValue_of_head (hlist : (skipGap cs).head? ≠ some '[')
    (hobject : (skipGap cs).head? ≠ some '\x7b') :
    readValue (fuel + 1) depth cs = readValue 1 0 cs := by
  rw [readValue, readValue]
  split <;> simp_all

theorem head_of_readValue (h : readValue 1 0 cs = .ok (v, rest)) :
    (skipGap cs).head? ≠ some '[' ∧ (skipGap cs).head? ≠ some '\x7b' := by
  rw [readValue] at h
  split at h <;> simp_all

theorem reading_of_read (h : found.Read fuel depth cs rest) : Reading depth found cs rest := by
  induction fuel generalizing depth found cs rest with
  | zero => cases found <;> cases h
  | succ fuel ih =>
    cases found with
    | value v =>
      change readValue (fuel + 1) depth cs = .ok (v, rest) at h
      by_cases hlist : (skipGap cs).head? = some '['
      · obtain ⟨body, hcs⟩ := List.head?_eq_some_iff.mp hlist
        rw [readValue, hcs] at h
        cases depth with
        | zero => cases h
        | succ depth =>
          obtain ⟨⟨items, rest'⟩, hitems, h⟩ := bind_eq_ok_iff.mp h
          obtain ⟨rfl, rfl⟩ := Prod.mk.inj (Except.ok.inj h)
          exact .list hcs (ih hitems)
      by_cases hobject : (skipGap cs).head? = some '\x7b'
      · obtain ⟨body, hcs⟩ := List.head?_eq_some_iff.mp hobject
        rw [readValue, hcs] at h
        cases depth with
        | zero => cases h
        | succ depth =>
          obtain ⟨⟨members, rest'⟩, hmembers, h⟩ := bind_eq_ok_iff.mp h
          obtain ⟨rfl, rfl⟩ := Prod.mk.inj (Except.ok.inj h)
          exact .object hcs (ih hmembers)
      · rw [readValue_of_head hlist hobject] at h
        exact .scalar h
    | items first items =>
      change readItems (fuel + 1) depth first cs = .ok (items, rest) at h
      rw [readItems] at h
      obtain ⟨place, hplace, h⟩ := bind_eq_ok_iff.mp h
      cases place with
      | none =>
        obtain ⟨rfl, rfl⟩ := Prod.mk.inj (Except.ok.inj h)
        obtain ⟨rest, hcs⟩ := nextItem_eq_none_iff.mp hplace
        rw [dropToken, hcs]
        exact .noItem hcs
      | some place =>
        obtain ⟨⟨v, middle⟩, hv, h⟩ := bind_eq_ok_iff.mp h
        obtain ⟨⟨items, rest'⟩, hitems, h⟩ := bind_eq_ok_iff.mp h
        obtain ⟨rfl, rfl⟩ := Prod.mk.inj (Except.ok.inj h)
        exact .item (nextItem_eq_some_iff.mp hplace) (ih hv) (ih hitems)
    | members first members =>
      change readMembers (fuel + 1) depth first cs = .ok (members, rest) at h
      rw [readMembers] at h
      obtain ⟨place, hplace, h⟩ := bind_eq_ok_iff.mp h
      cases place with
      | none =>
        obtain ⟨rfl, rfl⟩ := Prod.mk.inj (Except.ok.inj h)
        obtain ⟨rest, hcs⟩ := nextMember_eq_none_iff.mp hplace
        rw [dropToken, hcs]
        exact .noMember hcs
      | some place =>
        obtain ⟨⟨key, behind⟩, hkey, h⟩ := bind_eq_ok_iff.mp h
        obtain ⟨body, hcolon, h⟩ := bind_eq_ok_iff.mp h
        obtain ⟨⟨v, middle⟩, hv, h⟩ := bind_eq_ok_iff.mp h
        obtain ⟨⟨members, rest'⟩, hmembers, h⟩ := bind_eq_ok_iff.mp h
        obtain ⟨rfl, rfl⟩ := Prod.mk.inj (Except.ok.inj h)
        exact .member (nextMember_eq_some_iff.mp hplace) ⟨behind, hkey, hcolon⟩ (ih hv)
          (ih hmembers)

end reading

/-! ## The text of what has been found -/

theorem length_lt_of_skipGap {cs rest : List Char} {c : Char} (h : skipGap cs = c :: rest) :
    rest.length < cs.length := by
  obtain ⟨gap, rfl, -⟩ := exists_gap h
  simp only [List.length_cons, List.length_append]
  omega

theorem readColon_eq_ok_iff {cs rest : List Char} :
    readColon cs = .ok rest ↔ skipGap cs = ':' :: rest := by
  unfold readColon
  split
  · simp [*]
  · next more hcs => simp [hcs]
  · next hnil hcolon => simpa using hcolon rest

theorem KeyAt.cut {cs rest : List Char} {key : String} (h : KeyAt cs key rest) :
    ∃ c front, cs = c :: (front ++ rest) ∧ ∀ tail, KeyAt (c :: (front ++ tail)) key tail := by
  obtain ⟨behind, hkey, hcolon⟩ := h
  unfold readKey at hkey
  split at hkey
  · obtain ⟨name, -, rfl, hname⟩ := takes_readString hkey
    obtain ⟨gap, rfl, hgap⟩ := exists_gap (readColon_eq_ok_iff.mp hcolon)
    refine ⟨'"', name ++ gap ++ [':'], by simp, fun tail => ⟨gap ++ ':' :: tail, ?_, ?_⟩⟩
    · simpa [readKey] using (hname (gap ++ ':' :: tail)).1
    · exact readColon_eq_ok_iff.mpr (hgap tail)
  · cases hkey

theorem KeyAt.length_lt {cs rest : List Char} {key : String} (h : KeyAt cs key rest) :
    rest.length < cs.length := by
  obtain ⟨c, front, rfl, -⟩ := h.cut
  simp only [List.length_cons, List.length_append]
  omega

theorem readValue_nil (fuel depth : Nat) : readValue (fuel + 1) depth [] =
    .error (.atNext .endInValue []) := by
  rw [readValue]
  rfl

namespace Reading

variable {depth : Nat} {found : Found} {cs rest : List Char}

/-- What has been found has a text, and is found again in front of any tail that fits. -/
theorem cut (h : Reading depth found cs rest) :
    ∃ taken, taken ≠ [] ∧ cs = taken ++ rest ∧
      ∀ tail, Fits tail rest → Reading depth found (taken ++ tail) tail := by
  induction h with
  | scalar hcs =>
    obtain ⟨taken, rfl, htaken⟩ := takes_readValue hcs
    refine ⟨taken, ?_, rfl, fun tail htail => .scalar (htaken tail htail).1⟩
    rintro rfl
    obtain ⟨hnil, -⟩ := htaken [] (.nil _)
    rw [List.nil_append, readValue_nil] at hnil
    cases hnil
  | list hcs hitems ih =>
    obtain ⟨taken, -, rfl, htaken⟩ := ih
    obtain ⟨gap, rfl, hgap⟩ := exists_gap hcs
    refine ⟨gap ++ '[' :: taken, by simp, by simp, fun tail htail => ?_⟩
    rw [List.append_assoc]
    exact .list (hgap _) (htaken tail htail)
  | object hcs hmembers ih =>
    obtain ⟨taken, -, rfl, htaken⟩ := ih
    obtain ⟨gap, rfl, hgap⟩ := exists_gap hcs
    refine ⟨gap ++ '\x7b' :: taken, by simp, by simp, fun tail htail => ?_⟩
    rw [List.append_assoc]
    exact .object (hgap _) (htaken tail htail)
  | noItem hcs =>
    obtain ⟨gap, rfl, hgap⟩ := exists_gap hcs
    refine ⟨gap ++ [']'], by simp, by simp, fun tail _ => ?_⟩
    rw [List.append_assoc]
    exact .noItem (hgap tail)
  | noMember hcs =>
    obtain ⟨gap, rfl, hgap⟩ := exists_gap hcs
    refine ⟨gap ++ ['\x7d'], by simp, by simp, fun tail _ => ?_⟩
    rw [List.append_assoc]
    exact .noMember (hgap tail)
  | item hcs hv hitems ihv ihitems =>
    obtain ⟨value, hne, rfl, hvalue⟩ := ihv
    obtain ⟨more, -, rfl, hmore⟩ := ihitems
    obtain ⟨front, c, body, hplace, rfl, hentry⟩ := hcs.cut
    obtain ⟨d, value, rfl⟩ := List.exists_cons_of_ne_nil hne
    obtain rfl : d = c := (List.cons.inj hplace).1
    refine ⟨front ++ d :: (value ++ more), by simp, by simp, fun tail htail => ?_⟩
    simp only [List.append_assoc, List.cons_append]
    exact .item (hentry _) (hvalue _ (htail.append more)) (hmore tail htail)
  | member hcs hkey hv hmembers ihv ihmembers =>
    obtain ⟨value, -, rfl, hvalue⟩ := ihv
    obtain ⟨more, -, rfl, hmore⟩ := ihmembers
    obtain ⟨front, c, body, hplace, rfl, hentry⟩ := hcs.cut
    obtain ⟨d, name, rfl, hname⟩ := hkey.cut
    obtain rfl : d = c := (List.cons.inj hplace).1
    refine ⟨front ++ d :: (name ++ value ++ more), by simp, by simp, fun tail htail => ?_⟩
    simp only [List.append_assoc, List.cons_append]
    exact .member (hentry _) (hname _) (hvalue _ (htail.append more)) (hmore tail htail)

theorem length_lt (h : Reading depth found cs rest) : rest.length < cs.length := by
  obtain ⟨taken, hne, rfl, -⟩ := h.cut
  have := List.length_pos_iff.mpr hne
  rw [List.length_append]
  omega

theorem deepen (h : Reading depth found cs rest) {depth' : Nat} (hdepth : depth ≤ depth') :
    Reading depth' found cs rest := by
  induction h generalizing depth' with
  | scalar hcs => exact .scalar hcs
  | list hcs _ ih =>
    obtain ⟨d, rfl⟩ := Nat.exists_eq_add_of_lt hdepth
    exact .list hcs (ih (by omega))
  | object hcs _ ih =>
    obtain ⟨d, rfl⟩ := Nat.exists_eq_add_of_lt hdepth
    exact .object hcs (ih (by omega))
  | noItem hcs => exact .noItem hcs
  | noMember hcs => exact .noMember hcs
  | item hcs _ _ ihv ihitems => exact .item hcs (ihv hdepth) (ihitems hdepth)
  | member hcs hkey _ _ ihv ihmembers =>
    exact .member hcs hkey (ihv hdepth) (ihmembers hdepth)

/-- Two steps for each character are enough for the reader to find it. -/
theorem read (h : Reading depth found cs rest) {fuel : Nat}
    (hfuel : 2 * cs.length ≤ fuel + 2 * rest.length) : found.Read fuel depth cs rest := by
  have hlength := h.length_lt
  obtain ⟨fuel, rfl⟩ : ∃ n, fuel = n + 1 := ⟨fuel - 1, by omega⟩
  induction h generalizing fuel with
  | scalar hcs =>
    obtain ⟨hlist, hobject⟩ := head_of_readValue hcs
    exact (readValue_of_head hlist hobject).trans hcs
  | list hcs hitems ih =>
    have hbody := hitems.length_lt
    have hcsbody := length_lt_of_skipGap hcs
    obtain ⟨fuel, rfl⟩ : ∃ n, fuel = n + 1 := ⟨fuel - 1, by omega⟩
    have hread := ih hbody fuel (by omega)
    rw [Found.Read, readValue, hcs]
    exact bind_eq_ok_iff.mpr ⟨_, hread, rfl⟩
  | object hcs hmembers ih =>
    have hbody := hmembers.length_lt
    have hcsbody := length_lt_of_skipGap hcs
    obtain ⟨fuel, rfl⟩ : ∃ n, fuel = n + 1 := ⟨fuel - 1, by omega⟩
    have hread := ih hbody fuel (by omega)
    rw [Found.Read, readValue, hcs]
    exact bind_eq_ok_iff.mpr ⟨_, hread, rfl⟩
  | noItem hcs =>
    rw [Found.Read, readItems, nextItem_eq_none_iff.mpr ⟨_, hcs⟩]
    simp [dropToken, hcs, pure, Except.pure]
  | noMember hcs =>
    rw [Found.Read, readMembers, nextMember_eq_none_iff.mpr ⟨_, hcs⟩]
    simp [dropToken, hcs, pure, Except.pure]
  | item hcs hv hitems ihv ihitems =>
    have hplace := hcs.length_le
    have hvalue := hv.length_lt
    have hmore := hitems.length_lt
    obtain ⟨fuel, rfl⟩ : ∃ n, fuel = n + 1 := ⟨fuel - 1, by omega⟩
    rw [Found.Read, readItems, nextItem_eq_some_iff.mpr hcs, ok_bind]
    exact bind_eq_ok_iff.mpr ⟨_, ihv hvalue fuel (by omega),
      bind_eq_ok_iff.mpr ⟨_, ihitems hmore fuel (by omega), rfl⟩⟩
  | member hcs hkey hv hmembers ihv ihmembers =>
    have hplace := hcs.length_le
    have hname := hkey.length_lt
    have hvalue := hv.length_lt
    have hmore := hmembers.length_lt
    obtain ⟨behind, hkey, hcolon⟩ := hkey
    obtain ⟨fuel, rfl⟩ : ∃ n, fuel = n + 1 := ⟨fuel - 1, by omega⟩
    rw [Found.Read, readMembers, nextMember_eq_some_iff.mpr hcs, ok_bind]
    exact bind_eq_ok_iff.mpr ⟨_, hkey, bind_eq_ok_iff.mpr ⟨_, hcolon,
      bind_eq_ok_iff.mpr ⟨_, ihv hvalue fuel (by omega),
        bind_eq_ok_iff.mpr ⟨_, ihmembers hmore fuel (by omega), rfl⟩⟩⟩⟩

end Reading

theorem readEnd_eq_ok_iff {cs : List Char} : readEnd cs = .ok () ↔ skipGap cs = [] := by
  unfold readEnd
  split <;> simp_all

/-- A text is that of a value just when the value stands in front and only a gap behind it. -/
theorem parse_eq_ok_iff {text : String} {v : Json} :
    parse text = .ok v ↔
      ∃ rest, Reading maxDepth (.value v) text.toList rest ∧ skipGap rest = [] := by
  constructor
  · intro h
    obtain ⟨⟨w, rest⟩, hread, h⟩ := bind_eq_ok_iff.mp h
    obtain ⟨⟨⟩, hend, h⟩ := bind_eq_ok_iff.mp h
    obtain rfl := Except.ok.inj h
    exact ⟨rest, reading_of_read hread, readEnd_eq_ok_iff.mp hend⟩
  · rintro ⟨rest, hread, hend⟩
    have hprefix : readPrefix text.toList = .ok (v, rest) := hread.read (by rw [stepsFor]; omega)
    exact bind_eq_ok_iff.mpr ⟨_, hprefix,
      bind_eq_ok_iff.mpr ⟨_, readEnd_eq_ok_iff.mpr hend, rfl⟩⟩

/-- The text of a value that stands somewhere in a text is the text of that value. -/
theorem Reading.parse_taken {depth : Nat} {taken rest : List Char} {v : Json}
    (h : Reading depth (.value v) (taken ++ rest) rest) (hdepth : depth ≤ maxDepth) :
    parse (String.ofList taken) = .ok v := by
  obtain ⟨front, -, heq, hfront⟩ := h.cut
  obtain rfl := List.append_cancel_right heq
  have hread := (hfront [] (.nil _)).deepen hdepth
  rw [List.append_nil] at hread
  exact parse_eq_ok_iff.mpr ⟨[], by rwa [String.toList_ofList], rfl⟩

end FeedExplorer.Json
