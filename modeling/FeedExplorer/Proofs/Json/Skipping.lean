import FeedExplorer.Proofs.Json.Reading

/-!
# Skipping what can be read

The skipper keeps the open brackets on a stack where the reader calls itself. Main statements: what
can be read is skipped up to the same place, and the raw text taken on the way is the text of the
value that would have been read.
-/

namespace FeedExplorer.Json

/-- The character that ends a container. -/
def Bracket.close : Bracket → Char
  | .list => ']'
  | .object => '\x7d'

/-- The character that begins a container. -/
def Bracket.opening : Bracket → Char
  | .list => '['
  | .object => '\x7b'

/-- How skipping goes on behind a value, or behind an opening bracket. -/
def skipOn (fuel : Nat) (comma : Bool) (stack : List Bracket) (cs : List Char) :
    Except Fault (List Char) := do
  let (stack, rest) ← closeBrackets (stack.length + 1) comma stack cs
  if stack.isEmpty then return rest
  else skipFrom fuel stack (← skipKey stack rest)

section closeBrackets

variable {fuel : Nat} {comma first : Bool} {stack : List Bracket} {b : Bracket}
  {cs place rest : List Char}

/-- There are no more brackets to be closed than are open. -/
theorem closeBrackets_of_lt (h : stack.length < fuel) :
    closeBrackets fuel comma stack cs = closeBrackets (stack.length + 1) comma stack cs := by
  induction stack generalizing fuel comma cs with
  | nil =>
    obtain ⟨fuel, rfl⟩ : ∃ n, fuel = n + 1 := ⟨fuel - 1, by omega⟩
    rfl
  | cons b stack ih =>
    obtain ⟨fuel, rfl⟩ : ∃ n, fuel = n + 1 := ⟨fuel - 1, by omega⟩
    have hfuel : stack.length < fuel := Nat.lt_of_succ_lt_succ h
    unfold closeBrackets
    split <;> first | rfl | exact ih hfuel

theorem closeBrackets_close (h : skipGap cs = b.close :: rest) :
    closeBrackets (fuel + 1) comma (b :: stack) cs = closeBrackets fuel true stack rest := by
  cases b <;> simp [closeBrackets, h, Bracket.close]

theorem closeBrackets_entry (h : Entry b.close first cs place) :
    ∃ before, skipGap before = place ∧ ∀ fuel stack,
      closeBrackets (fuel + 1) (!first) (b :: stack) cs = .ok (b :: stack, before) := by
  obtain ⟨⟨c, body, rfl, hc⟩, hbehind⟩ := h
  cases first with
  | true =>
    have hcs : skipGap cs = c :: body := hbehind
    refine ⟨c :: body, by rw [← hcs, skipGap_skipGap], fun fuel stack => ?_⟩
    cases b <;> simp_all [closeBrackets, Bracket.close]
  | false =>
    obtain ⟨more, hcs, hmore⟩ := hbehind
    refine ⟨more, hmore, fun fuel stack => ?_⟩
    cases b <;> simp [closeBrackets, hcs]

end closeBrackets

section skipFrom

variable {fuel : Nat} {stack : List Bracket} {cs body place rest : List Char} {key : String}

theorem skipFrom_skipGap :
    skipFrom (fuel + 1) stack (skipGap cs) = skipFrom (fuel + 1) stack cs := by
  rw [skipFrom, skipFrom, skipGap_skipGap]

/-- Once the brackets behind a value have been closed, skipping goes on as `skipOn` does. -/
theorem skipOn_eq {comma : Bool} {n : Nat} (h : stack.length < n) :
    (do
      let (stack, rest) ← closeBrackets n comma stack cs
      if stack.isEmpty then return rest
      else skipFrom fuel stack (← skipKey stack rest)) = skipOn fuel comma stack cs := by
  rw [skipOn, closeBrackets_of_lt h]

theorem skipFrom_scalar (h : skipScalar cs = .ok rest) :
    skipFrom (fuel + 1) stack cs = skipOn fuel true stack rest := by
  unfold skipScalar at h
  have hlength : stack.length < rest.length + stack.length + 2 := by omega
  split at h
  · cases h
  · next hcs => simp only [skipFrom, hcs, h]; exact skipOn_eq hlength
  · next hcs => simp only [skipFrom, hcs, h]; exact skipOn_eq hlength
  · next hcs => simp only [skipFrom, hcs, h]; exact skipOn_eq hlength
  · next hcs => simp only [skipFrom, hcs, h]; exact skipOn_eq hlength
  · next hcs => simp only [skipFrom, hcs, h]; exact skipOn_eq hlength
  · next c body hn ht hf hminus hquote hcs =>
    split at h
    · next hc =>
      have hlist : c ≠ '[' := by rintro rfl; exact absurd hc (by decide)
      have hobject : c ≠ '\x7b' := by rintro rfl; exact absurd hc (by decide)
      simp only [skipFrom, hcs, hc, if_true, h]
      exact skipOn_eq hlength
    · cases h

theorem skipFrom_opening {b : Bracket} (h : skipGap cs = b.opening :: body) :
    skipFrom (fuel + 1) stack cs = skipOn fuel false (b :: stack) body := by
  have hlength : (b :: stack).length < body.length + stack.length + 2 := by
    rw [List.length_cons]
    omega
  cases b <;> (simp only [skipFrom, h, Bracket.opening]; exact skipOn_eq hlength)

theorem skipKey_of_keyAt (h : KeyAt place key rest) (hcs : skipGap cs = place) :
    skipKey (.object :: stack) cs = .ok rest := by
  obtain ⟨behind, hkey, hcolon⟩ := h
  unfold readKey at hkey
  split at hkey
  · obtain ⟨name, -, rfl, hname⟩ := takes_readString hkey
    obtain ⟨-, hskip⟩ := hname behind
    rw [skipKey, hcs]
    exact bind_eq_ok_iff.mpr ⟨behind, hskip, hcolon⟩
  · cases hkey

end skipFrom

/-- What is skipped where something has been found. -/
def Found.skip (fuel : Nat) (stack : List Bracket) (cs : List Char) :
    Found → Except Fault (List Char)
  | .value _ => skipFrom fuel stack cs
  | .items first _ => skipOn fuel (!first) (.list :: stack) cs
  | .members first _ => skipOn fuel (!first) (.object :: stack) cs

namespace Reading

variable {depth : Nat} {found : Found} {v : Json} {cs rest : List Char}

/-- What has been found is skipped, whatever the brackets around it. -/
theorem skip (h : Reading depth found cs rest) (stack : List Bracket) {fuel : Nat}
    (hfuel : cs.length < fuel) :
    ∃ fuel', rest.length < fuel' ∧ found.skip fuel stack cs = skipOn fuel' true stack rest := by
  induction h generalizing stack fuel with
  | @scalar _ v cs rest hcs =>
    have hlength := (scalar hcs : Reading 0 (.value v) cs rest).length_lt
    obtain ⟨fuel, rfl⟩ : ∃ n, fuel = n + 1 := ⟨fuel - 1, by omega⟩
    obtain ⟨taken, rfl, htaken⟩ := takes_readValue hcs
    exact ⟨fuel, by omega, skipFrom_scalar (htaken rest (.refl rest)).2⟩
  | list hcs hitems ih =>
    have hlength := length_lt_of_skipGap hcs
    obtain ⟨fuel, rfl⟩ : ∃ n, fuel = n + 1 := ⟨fuel - 1, by omega⟩
    obtain ⟨fuel', hfuel', hskip⟩ := ih stack (show _ < fuel by omega)
    exact ⟨fuel', hfuel', (skipFrom_opening hcs).trans hskip⟩
  | object hcs hmembers ih =>
    have hlength := length_lt_of_skipGap hcs
    obtain ⟨fuel, rfl⟩ : ∃ n, fuel = n + 1 := ⟨fuel - 1, by omega⟩
    obtain ⟨fuel', hfuel', hskip⟩ := ih stack (show _ < fuel by omega)
    exact ⟨fuel', hfuel', (skipFrom_opening hcs).trans hskip⟩
  | noItem hcs =>
    have hlength := length_lt_of_skipGap hcs
    refine ⟨fuel, by omega, ?_⟩
    rw [Found.skip, skipOn, List.length_cons, closeBrackets_close hcs]
    rfl
  | noMember hcs =>
    have hlength := length_lt_of_skipGap hcs
    refine ⟨fuel, by omega, ?_⟩
    rw [Found.skip, skipOn, List.length_cons, closeBrackets_close hcs]
    rfl
  | item hcs hv hitems ihv ihitems =>
    have hplace := hcs.length_le
    obtain ⟨fuel, rfl⟩ : ∃ n, fuel = n + 1 := ⟨fuel - 1, by omega⟩
    obtain ⟨before, hbefore, hclose⟩ := closeBrackets_entry (b := .list) hcs
    obtain ⟨fuel₁, hfuel₁, hskip₁⟩ := ihv (.list :: stack) (show _ < fuel + 1 by omega)
    obtain ⟨fuel₂, hfuel₂, hskip₂⟩ := ihitems stack hfuel₁
    refine ⟨fuel₂, hfuel₂, ?_⟩
    calc skipOn (fuel + 1) (!_) (.list :: stack) _
        = skipFrom (fuel + 1) (.list :: stack) before := by rw [skipOn, hclose]; rfl
      _ = skipFrom (fuel + 1) (.list :: stack) _ := by rw [← skipFrom_skipGap, hbefore]
      _ = skipOn fuel₁ true (.list :: stack) _ := hskip₁
      _ = skipOn fuel₂ true stack _ := hskip₂
  | member hcs hkey hv hmembers ihv ihmembers =>
    have hplace := hcs.length_le
    have hbody := hkey.length_lt
    obtain ⟨before, hbefore, hclose⟩ := closeBrackets_entry (b := .object) hcs
    obtain ⟨fuel₁, hfuel₁, hskip₁⟩ := ihv (.object :: stack) (show _ < fuel by omega)
    obtain ⟨fuel₂, hfuel₂, hskip₂⟩ := ihmembers stack hfuel₁
    refine ⟨fuel₂, hfuel₂, ?_⟩
    calc skipOn fuel (!_) (.object :: stack) _
        = skipKey (.object :: stack) before >>= skipFrom fuel (.object :: stack) := by
          rw [skipOn, hclose]
          rfl
      _ = skipFrom fuel (.object :: stack) _ := by rw [skipKey_of_keyAt hkey hbefore, ok_bind]
      _ = skipOn fuel₁ true (.object :: stack) _ := hskip₁
      _ = skipOn fuel₂ true stack _ := hskip₂

theorem skipValue_eq (h : Reading depth (.value v) cs rest) : skipValue cs = .ok rest := by
  obtain ⟨fuel, -, hskip⟩ := h.skip [] (Nat.lt_succ_self cs.length)
  exact hskip

/-- A gap in front of a value makes no difference. -/
theorem skipGap (h : Reading depth (.value v) cs rest) :
    Reading depth (.value v) (Json.skipGap cs) rest := by
  have hread : readValue 1 0 (Json.skipGap cs) = readValue 1 0 cs := by
    rw [readValue, readValue, skipGap_skipGap]
  cases h with
  | scalar hcs => exact .scalar (hread.trans hcs)
  | list hcs hitems => exact .list (by rwa [skipGap_skipGap]) hitems
  | object hcs hmembers => exact .object (by rwa [skipGap_skipGap]) hmembers

/-- The raw text that is taken is that of the value. -/
theorem takeRaw_eq (h : Reading depth (.value v) cs rest) (hdepth : depth ≤ maxDepth) :
    ∃ raw, takeRaw cs = .ok (raw, rest) ∧ parse (String.ofList raw) = .ok v := by
  obtain ⟨taken, -, htaken, -⟩ := h.skipGap.cut
  refine ⟨taken, ?_, parse_taken (htaken ▸ h.skipGap) hdepth⟩
  have hlength : (Json.skipGap cs).length - rest.length = taken.length := by
    rw [htaken]
    simp
  rw [takeRaw, h.skipGap.skipValue_eq, ok_bind, hlength, htaken, List.take_left]
  rfl

end Reading

end FeedExplorer.Json
