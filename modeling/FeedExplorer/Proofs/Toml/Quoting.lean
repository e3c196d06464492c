import FeedExplorer.Toml.Reader
import FeedExplorer.Proofs.Json.Record

/-!
# Reading quoted texts of settings

A text is written in one of four styles, and what stands between the marks is read in the same way
in all of them. Main statement: every text is read back from its quotes, whatever its characters
are and whichever style they call for.
-/

namespace FeedExplorer.Toml

/-- How many marks of its own a text can have side by side without an escape. -/
def Style.limit (style : Style) : Nat :=
  if style.multiline then 2 else 0

def Style.marks (style : Style) : List Char :=
  List.replicate (if style.multiline then 3 else 1) style.mark

/-- `Body style run cs text` tells that `text` stands for `cs` between the marks of the style when
`run` marks stand right before it that belong to the text as well. -/
inductive Body (style : Style) : Nat → List Char → List Char → Prop where
  | nil {run : Nat} : Body style run [] []
  | mark {run : Nat} {cs text : List Char} (hrun : run < style.limit)
      (h : Body style (run + 1) cs text) : Body style run (style.mark :: cs) (style.mark :: text)
  | escape {run : Nat} {c : Char} {code cs text : List Char} (hstyle : style.escapes = true)
      (hread : ∀ tail, readEscape (code ++ tail) = .ok (c, tail))
      (hline : ∀ tail, endsLine (code ++ tail) = false) (h : Body style 0 cs text) :
      Body style run (c :: cs) ('\\' :: (code ++ text))
  | newline {run : Nat} {cs text : List Char} (hstyle : style.multiline = true)
      (h : Body style 0 cs text) : Body style run ('\n' :: cs) ('\n' :: text)
  | plain {run : Nat} {c : Char} {cs text : List Char} (hmark : c ≠ style.mark)
      (hslash : ¬ (c = '\\' ∧ style.escapes = true)) (hcontrol : isBareControl c = false)
      (h : Body style 0 cs text) : Body style run (c :: cs) (c :: text)

theorem Style.mark_eq_or (style : Style) : style.mark = '"' ∨ style.mark = '\'' := by
  rcases style with ⟨_ | _, multiline⟩
  · exact .inr rfl
  · exact .inl rfl

theorem Style.mark_ne_slash (style : Style) : '\\' ≠ style.mark := by
  rcases style.mark_eq_or with h | h <;> simp [h]

theorem Style.mark_ne_newline (style : Style) : '\n' ≠ style.mark := by
  rcases style.mark_eq_or with h | h <;> simp [h]

/-! ## Reading a body -/

section body

variable {style : Style} {run : Nat} {cs text tail : List Char}

theorem takeWhile_replicate_append {mark : Char} (n : Nat) (htail : tail.head? ≠ some mark) :
    (List.replicate n mark ++ tail).takeWhile (· = mark) = List.replicate n mark := by
  induction n with
  | zero =>
    cases tail with
    | nil => rfl
    | cons c tail => exact List.takeWhile_cons_of_neg (by simpa using htail)
  | succ n ih => simpa [List.replicate_succ] using ih

/-- Three marks close a text, and up to two more in front of them belong to it. -/
theorem closing?_replicate {mark : Char} {n : Nat} (hn : n ≤ 2) (htail : tail.head? ≠ some mark) :
    closing? mark (List.replicate (n + 3) mark ++ tail) = some (n, tail) := by
  have hdrop : (List.replicate (n + 3) mark ++ tail).drop (n + 3) = tail :=
    List.drop_left' (by simp)
  rw [closing?, takeWhile_replicate_append _ htail, List.length_replicate]
  rw [if_neg (by omega), show min (n + 3 - 3) 2 = n by omega, show min (n + 3) 5 = n + 3 by omega,
    hdrop]

theorem closing?_eq_none {mark : Char} (h : (cs.takeWhile (· = mark)).length < 3) :
    closing? mark cs = none := by
  rw [closing?, if_pos h]

/-- A body is a few marks alone, or does not begin with so many that it could be mistaken for the
end. -/
theorem Body.lead (h : Body style run cs text) (hrun : run ≤ style.limit) :
    (∃ n, cs = List.replicate n style.mark ∧ text = List.replicate n style.mark ∧
      run + n ≤ style.limit) ∨
    ∀ tail, run + ((text ++ tail).takeWhile (· = style.mark)).length ≤ style.limit := by
  induction h with
  | nil => exact .inl ⟨0, rfl, rfl, hrun⟩
  | mark hlimit h ih =>
    rcases ih hlimit with ⟨n, rfl, rfl, hn⟩ | hlead
    · exact .inl ⟨n + 1, rfl, rfl, by omega⟩
    · refine .inr fun tail => ?_
      have hlead := hlead tail
      rw [List.cons_append, List.takeWhile_cons_of_pos (by simp), List.length_cons]
      omega
  | escape =>
    refine .inr fun tail => ?_
    rw [List.cons_append, List.takeWhile_cons_of_neg (by simpa using style.mark_ne_slash)]
    exact hrun
  | newline =>
    refine .inr fun tail => ?_
    rw [List.cons_append, List.takeWhile_cons_of_neg (by simpa using style.mark_ne_newline)]
    exact hrun
  | plain hmark =>
    refine .inr fun tail => ?_
    rw [List.cons_append, List.takeWhile_cons_of_neg (by simpa using hmark)]
    exact hrun

theorem newline?_cons {c : Char} (hcontrol : isBareControl c = false) (cs : List Char) :
    newline? (c :: cs) = none := by
  unfold newline?
  split
  · next heq =>
    obtain ⟨rfl, -⟩ := List.cons.inj heq
    exact absurd hcontrol (by decide)
  · next heq =>
    obtain ⟨rfl, -⟩ := List.cons.inj heq
    exact absurd hcontrol (by decide)
  · rfl

/-- A body is read up to its closing marks. -/
theorem Body.read (h : Body style run cs text) (hrun : run ≤ style.limit)
    (htail : tail.head? ≠ some style.mark) (label : String) {fuel : Nat}
    (hfuel : cs.length < fuel) :
    readBody style label fuel (text ++ (style.marks ++ tail)) = .ok (cs, tail) := by
  induction h generalizing fuel with
  | nil =>
    obtain ⟨fuel, rfl⟩ : ∃ n, fuel = n + 1 := ⟨fuel - 1, by simp at hfuel; omega⟩
    by_cases hlines : style.multiline = true
    · have hclosing := closing?_replicate (Nat.zero_le 2) htail
      have hmarks : style.marks ++ tail = style.mark :: style.mark :: style.mark :: tail := by
        simp [Style.marks, hlines, List.replicate_succ]
      rw [List.nil_append, hmarks, readBody, if_pos rfl, if_pos hlines]
      simp only [List.replicate_succ, List.replicate_zero, List.cons_append, List.nil_append,
        Nat.zero_add] at hclosing
      rw [hclosing]
      rfl
    · simp [Style.marks, hlines, readBody]
  | @mark run cs text hlimit h ih =>
    rw [List.length_cons] at hfuel
    obtain ⟨fuel, rfl⟩ : ∃ n, fuel = n + 1 := ⟨fuel - 1, by omega⟩
    have hlines : style.multiline = true := by
      by_contra hlines
      simp [Style.limit, hlines] at hlimit
    have hlimit2 : style.limit = 2 := by rw [Style.limit, if_pos hlines]
    rw [List.cons_append, readBody, if_pos rfl, if_pos hlines]
    rcases (Body.mark hlimit h).lead hrun with ⟨n, hcs, htext, hn⟩ | hlead
    · -- the text ends with marks of its own, which the closing ones follow
      have hclosing := closing?_replicate (n := n) (by omega) htail
      have hmarks : style.mark :: (text ++ (style.marks ++ tail)) =
          List.replicate (n + 3) style.mark ++ tail := by
        rw [← List.cons_append, htext, Style.marks, if_pos hlines, ← List.append_assoc,
          List.replicate_append_replicate]
      rw [hmarks, hclosing, hcs]
    · have hlead := hlead (style.marks ++ tail)
      have hclosing : closing? style.mark (style.mark :: (text ++ (style.marks ++ tail))) = none :=
        closing?_eq_none (by rw [← List.cons_append]; omega)
      rw [hclosing, ih hlimit (by omega)]
      rfl
  | @escape run c code cs text hstyle hread hline h ih =>
    rw [List.length_cons] at hfuel
    obtain ⟨fuel, rfl⟩ : ∃ n, fuel = n + 1 := ⟨fuel - 1, by omega⟩
    have hline : ¬ (style.multiline = true ∧
        endsLine (code ++ (text ++ (style.marks ++ tail))) = true) := by
      rw [hline]
      simp
    rw [List.cons_append, List.append_assoc, readBody, if_neg style.mark_ne_slash,
      if_pos ⟨rfl, hstyle⟩, if_neg hline, hread, Json.ok_bind]
    simp [ih (Nat.zero_le _) (show _ < fuel by omega), pure, Except.pure]
  | newline hstyle h ih =>
    rw [List.length_cons] at hfuel
    obtain ⟨fuel, rfl⟩ : ∃ n, fuel = n + 1 := ⟨fuel - 1, by omega⟩
    rw [List.cons_append, readBody, if_neg style.mark_ne_newline, if_neg (by simp),
      if_pos ⟨hstyle, rfl⟩]
    simp [newline?, ih (Nat.zero_le _) (show _ < fuel by omega), pure, Except.pure]
  | plain hmark hslash hcontrol h ih =>
    rw [List.length_cons] at hfuel
    obtain ⟨fuel, rfl⟩ : ∃ n, fuel = n + 1 := ⟨fuel - 1, by omega⟩
    rw [List.cons_append, readBody, if_neg hmark, if_neg hslash, newline?_cons hcontrol,
      if_neg (by simp), if_neg (by simp [hcontrol]), ih (Nat.zero_le _) (by omega)]
    rfl

end body

/-! ## Writing a body -/

theorem readEscape_code {c : Char} (hc : c.toNat < 65536) (tail : List Char) :
    readEscape ('u' :: (Text.hexFixedUpper 4 c.toNat ++ tail)) = .ok (c, tail) := by
  have hvalue : ∀ m, Text.hexValue? (Text.hexDigitUpper (m % 16)) = some (m % 16) := fun m =>
    Text.hexValue?_hexDigitUpper (Nat.mod_lt m (by decide))
  have hdigits : readDigits "unicode 4-digit hex code" 4 0
      (Text.hexFixedUpper 4 c.toNat ++ tail) = .ok (c.toNat, tail) := by
    simp only [Text.hexFixedUpper, List.nil_append, List.cons_append, readDigits, hvalue,
      Except.ok.injEq, Prod.mk.injEq, and_true]
    omega
  have hvalid : c.toNat.isValidChar := c.valid
  rw [readEscape, readCode, hdigits, Json.ok_bind]
  dsimp only
  rw [if_pos hvalid, Char.ofNat_toNat]
  rfl

theorem isBareControl_lt {c : Char} (h : isBareControl c = true) : c.toNat < 128 := by
  simp only [isBareControl, Bool.or_eq_true, Bool.and_eq_true, decide_eq_true_eq,
    beq_iff_eq] at h
  rcases h with ⟨h, -⟩ | rfl
  · omega
  · decide

theorem Body.letter {multiline : Bool} {run : Nat} {letter c : Char} {cs text : List Char}
    (hread : ∀ tail, readEscape (letter :: tail) = .ok (c, tail))
    (hline : ∀ tail, endsLine (letter :: tail) = false) (h : Body ⟨true, multiline⟩ 0 cs text) :
    Body ⟨true, multiline⟩ run (c :: cs) ('\\' :: letter :: text) :=
  show Body _ run (c :: cs) ('\\' :: ([letter] ++ text)) from .escape rfl hread hline h

/-- With escapes every text can be written. -/
theorem body_escapeChars (multiline : Bool) (run : Nat) (cs : List Char) :
    Body ⟨true, multiline⟩ run cs
      (escapeChars multiline (Style.limit ⟨true, multiline⟩) run cs) := by
  induction cs generalizing run with
  | nil => exact .nil
  | cons c cs ih =>
    rw [escapeChars]
    split
    · next hquote =>
      subst hquote
      split
      · next hrun => exact .mark hrun (ih (run + 1))
      · exact .letter (fun _ => rfl) (fun _ => rfl) (ih 0)
    next hquote =>
    dsimp only
    split
    · next hslash => subst hslash; exact .letter (fun _ => rfl) (fun _ => rfl) (ih 0)
    next hslash =>
    split
    · next hc => subst hc; exact .letter (fun _ => rfl) (fun _ => rfl) (ih 0)
    split
    · next hc => subst hc; exact .letter (fun _ => rfl) (fun _ => rfl) (ih 0)
    split
    · next hc =>
      subst hc
      cases multiline with
      | true => exact .newline rfl (ih 0)
      | false => exact .letter (fun _ => rfl) (fun _ => rfl) (ih 0)
    split
    · next hc => subst hc; exact .letter (fun _ => rfl) (fun _ => rfl) (ih 0)
    split
    · next hc => subst hc; exact .letter (fun _ => rfl) (fun _ => rfl) (ih 0)
    split
    · next hcontrol =>
      have hc := isBareControl_lt hcontrol
      exact .escape rfl (fun tail => readEscape_code (by omega) tail) (fun _ => rfl) (ih 0)
    · next hcontrol =>
      exact .plain hquote (fun h => hslash h.1) (Bool.eq_false_iff.mpr hcontrol) (ih 0)

/-- The longest run of marks, when the last of `run` marks stands right before the text and `best`
is the longest run before it. -/
def longestFrom (mark : Char) (best run : Nat) (cs : List Char) : Nat :=
  (cs.foldl (fun (best, run) c => if c = mark then (max best (run + 1), run + 1) else (best, 0))
    (best, run)).1

theorem longestFrom_mark (mark : Char) (best run : Nat) (cs : List Char) :
    longestFrom mark best run (mark :: cs) =
      longestFrom mark (max best (run + 1)) (run + 1) cs := by
  simp [longestFrom]

theorem longestFrom_other {mark c : Char} (hc : c ≠ mark) (best run : Nat) (cs : List Char) :
    longestFrom mark best run (c :: cs) = longestFrom mark best 0 cs := by
  simp [longestFrom, hc]

theorem le_longestFrom (mark : Char) (best run : Nat) (cs : List Char) :
    best ≤ longestFrom mark best run cs := by
  induction cs generalizing best run with
  | nil => exact Nat.le_refl best
  | cons c cs ih =>
    by_cases hc : c = mark
    · rw [hc, longestFrom_mark]
      exact Nat.le_trans (Nat.le_max_left _ _) (ih _ _)
    · rw [longestFrom_other hc]
      exact ih _ _

/-- Without escapes a text can be written as it stands, if nothing in it needs one. -/
theorem body_self {multiline : Bool} {best run : Nat} {cs : List Char}
    (hcodes : ∀ c ∈ cs, needsEscape c = false) (hlines : '\n' ∈ cs → multiline = true)
    (hruns : longestFrom '\'' best run cs ≤ Style.limit ⟨false, multiline⟩) :
    Body ⟨false, multiline⟩ run cs cs := by
  induction cs generalizing best run with
  | nil => exact .nil
  | cons c cs ih =>
    obtain ⟨hc, hcs⟩ := List.forall_mem_cons.mp hcodes
    have hlater : '\n' ∈ cs → multiline = true := fun h => hlines (List.mem_cons_of_mem c h)
    by_cases hmark : c = '\''
    · subst hmark
      rw [longestFrom_mark] at hruns
      have hbest := le_longestFrom '\'' (max best (run + 1)) (run + 1) cs
      exact .mark (show run < _ by omega) (ih hcs hlater hruns)
    rw [longestFrom_other hmark] at hruns
    by_cases hline : c = '\n'
    · subst hline
      exact .newline (hlines List.mem_cons_self) (ih hcs hlater hruns)
    · have hcontrol : isBareControl c = false := by simpa [needsEscape, hline] using hc
      exact .plain hmark (by simp) hcontrol (ih hcs hlater hruns)

/-- What stands between the marks of a text. -/
def bodyChars (cs : List Char) : List Char :=
  if (styleFor cs).escapes then
    escapeChars (styleFor cs).multiline (styleFor cs).limit 0 cs
  else cs

/-- The style in which a text is written can hold it. -/
theorem body_bodyChars (cs : List Char) : Body (styleFor cs) 0 cs (bodyChars cs) := by
  have hescapes : ∀ multiline, Body ⟨true, multiline⟩ 0 cs
      (escapeChars multiline (Style.limit ⟨true, multiline⟩) 0 cs) :=
    fun multiline => body_escapeChars multiline 0 cs
  have hcodes : ¬ cs.any needsEscape = true → ∀ c ∈ cs, needsEscape c = false := by
    simp
  unfold bodyChars styleFor
  dsimp only
  split
  · exact hescapes false
  split
  · next h =>
    obtain ⟨hneeds, hruns, hline⟩ := h
    exact body_self (hcodes hneeds) (by simpa using hline) (Nat.le_of_eq hruns)
  split
  · exact hescapes true
  split
  · next h =>
    obtain ⟨hneeds, hruns⟩ := h
    exact body_self (hcodes hneeds) (fun _ => rfl) hruns
  · exact hescapes _

/-! ## Quoted texts -/

theorem quoteChars_eq (cs : List Char) :
    quoteChars cs = (styleFor cs).marks ++
      (if (styleFor cs).multiline ∧ cs.contains '\n' then ['\n'] else []) ++ bodyChars cs ++
        (styleFor cs).marks := rfl

theorem head?_quoteChars (cs : List Char) :
    (quoteChars cs).head? = some (styleFor cs).mark := by
  rw [quoteChars_eq, Style.marks]
  split <;> rfl

/-- No body begins with a line break unless the text does. -/
theorem Body.newline?_eq_none {style : Style} {run : Nat} {cs text : List Char}
    (h : Body style run cs text) (hcs : '\n' ∉ cs) (tail : List Char) :
    newline? (text ++ (style.marks ++ tail)) = none := by
  have hmark : ∀ rest, newline? (style.mark :: rest) = none := fun rest =>
    newline?_cons (by rcases style.mark_eq_or with h | h <;> rw [h] <;> decide) rest
  cases h with
  | nil =>
    rcases style with ⟨escapes, _ | _⟩
    · exact hmark tail
    · exact hmark _
  | mark => exact hmark _
  | escape => exact newline?_cons (by decide) _
  | newline => exact absurd List.mem_cons_self hcs
  | plain _ _ hcontrol => exact newline?_cons hcontrol _

theorem Body.length_le {style : Style} {run : Nat} {cs text : List Char}
    (h : Body style run cs text) : cs.length ≤ text.length := by
  induction h with
  | nil => exact Nat.le_refl 0
  | escape _ _ _ _ ih =>
    simp only [List.length_cons, List.length_append]
    omega
  | _ => simpa using ‹_›

/-- Behind its opening marks a written text is read up to its closing ones. -/
theorem readQuoted_bodyChars (cs : List Char) {tail : List Char}
    (htail : tail.head? ≠ some (styleFor cs).mark) :
    readQuoted (styleFor cs)
      ((if (styleFor cs).multiline ∧ cs.contains '\n' then ['\n'] else []) ++
        (bodyChars cs ++ ((styleFor cs).marks ++ tail))) = .ok (String.ofList cs, tail) := by
  have hbody := body_bodyChars cs
  have hread : readBody (styleFor cs) (styleFor cs).label
      ((bodyChars cs ++ ((styleFor cs).marks ++ tail)).length + 1)
      (bodyChars cs ++ ((styleFor cs).marks ++ tail)) = .ok (cs, tail) := by
    have hlength := hbody.length_le
    exact hbody.read (Nat.zero_le _) htail _ (by rw [List.length_append]; omega)
  by_cases hlines : (styleFor cs).multiline = true
  · by_cases hnewline : cs.contains '\n' = true
    · rw [readQuoted, if_pos hlines, if_pos ⟨hlines, hnewline⟩]
      simp only [List.cons_append, List.nil_append, newline?, Option.getD_some]
      rw [hread]
      rfl
    · have hnone := hbody.newline?_eq_none (by simpa using hnewline) tail
      rw [readQuoted, if_pos hlines, if_neg (fun h => hnewline h.2), List.nil_append, hnone,
        Option.getD_none, hread]
      rfl
  · rw [readQuoted, if_neg hlines, if_neg (fun h => hlines h.1), List.nil_append, hread]
    rfl

theorem opening?_marks {style : Style} {front : List Char}
    (h : style.multiline = false → ∀ rest, front ≠ style.mark :: style.mark :: rest) :
    opening? (style.marks ++ front) = some (style, front) := by
  rcases style with ⟨_ | _, _ | _⟩
  · have hfront : ∀ rest, front ≠ '\'' :: '\'' :: rest := h rfl
    change opening? ('\'' :: front) = _
    unfold opening?
    split <;> simp_all
  · rfl
  · have hfront : ∀ rest, front ≠ '"' :: '"' :: rest := h rfl
    change opening? ('"' :: front) = _
    unfold opening?
    split <;> simp_all
  · rfl

/-- A text in its quotes is read as the text. -/
theorem readValue_quoteChars (cs : List Char) {tail : List Char}
    (htail : ∀ style : Style, tail.head? ≠ some style.mark) (fuel depth : Nat) :
    readValue (fuel + 1) depth (quoteChars cs ++ tail) = .ok (.str (String.ofList cs), tail) := by
  have hbody := body_bodyChars cs
  have hfront : (styleFor cs).multiline = false → ∀ rest,
      (if (styleFor cs).multiline ∧ cs.contains '\n' then ['\n'] else []) ++
        (bodyChars cs ++ ((styleFor cs).marks ++ tail)) ≠
          (styleFor cs).mark :: (styleFor cs).mark :: rest := by
    intro hline rest
    have hlimit : (styleFor cs).limit = 0 := by simp [Style.limit, hline]
    rw [if_neg (by simp [hline]), List.nil_append]
    generalize bodyChars cs = text at hbody
    generalize styleFor cs = style at *
    cases hbody with
    | nil =>
      intro h
      simp only [Style.marks, hline, Bool.false_eq_true, if_false, List.replicate_one,
        List.nil_append, List.cons_append, List.cons.injEq, true_and] at h
      exact htail style (by rw [h]; rfl)
    | mark hrun => omega
    | escape => exact fun h => style.mark_ne_slash (List.cons.inj h).1
    | newline hstyle => rw [hline] at hstyle; cases hstyle
    | plain hmark => exact fun h => hmark (List.cons.inj h).1
  rw [quoteChars_eq]
  simp only [List.append_assoc]
  rw [readValue.eq_def]
  dsimp only
  rw [opening?_marks hfront]
  dsimp only
  rw [readQuoted_bodyChars cs (htail _)]
  rfl

end FeedExplorer.Toml
