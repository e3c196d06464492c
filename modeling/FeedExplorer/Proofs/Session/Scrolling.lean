import FeedExplorer.Proofs.Text.Beginning
import FeedExplorer.Session.LineInput

/-!
# Scrolling a line

How far a line is scrolled, and where its cursor stands then. Main statement: scrolling stops at the
first character with which enough columns are out of sight, so that the cursor is behind the last
column shown whenever some beginning of the line has just as many columns.
-/

namespace FeedExplorer.Session.LineInput

open scoped Number
open Text (charColumns clusters clusterWidth)

/-- The characters taken are the shortest beginning that fills the columns wanted, or all. -/
theorem exists_columnsUpTo (wanted filled : Nat) (cs : List Char) :
    ∃ p rest, cs = p ++ rest ∧ columnsUpTo wanted filled cs = filled + charColumns p ∧
      (rest ≠ [] → wanted ≤ filled + charColumns p) ∧
      ∀ q, q <+: p → q ≠ p → filled + charColumns q < wanted := by
  induction cs generalizing filled with
  | nil => exact ⟨[], [], rfl, rfl, by simp, fun q hq hne => absurd (List.prefix_nil.mp hq) hne⟩
  | cons c cs ih =>
    rw [columnsUpTo]
    split
    · next hlt =>
      obtain ⟨p, rest, rfl, hcolumns, hrest, hshorter⟩ := ih (filled + (Text.glyphWidth? c).getD 0)
      refine ⟨c :: p, rest, rfl, ?_, ?_, fun q hq hne => ?_⟩
      · rw [hcolumns, Text.charColumns_cons, Nat.add_assoc]
      · rwa [Text.charColumns_cons, ← Nat.add_assoc]
      · cases q with
        | nil => exact hlt
        | cons d q =>
          obtain ⟨rfl, htail⟩ := List.cons_prefix_cons.mp hq
          have := hshorter q htail fun heq => hne (heq ▸ rfl)
          rwa [Text.charColumns_cons, ← Nat.add_assoc]
    · next hle =>
      refine ⟨[], c :: cs, rfl, rfl, fun _ => Nat.le_of_not_lt hle, fun q hq hne => ?_⟩
      exact absurd (List.prefix_nil.mp hq) hne

/-- The cursor is behind the columns that are shown although the line is scrolled: what has to be
out of sight is just some beginning of the line, or more than its characters one by one. -/
def OutOfSight (l : LineInput) (width : Nat) : Prop :=
  width ≤ l.cursorColumn ∧
    ((∃ p, p <+: l.chars ∧ charColumns p = l.cursorColumn - width) ∨
      charColumns l.chars < l.cursorColumn - width)

/-- The cursor is in front of a cluster, and whole clusters are scrolled out of sight, each of which
could be shown. -/
def Faces (l : LineInput) (width : Nat) (cluster : List Char) : Prop :=
  ∃ gone kept rest, clusters l.before.reverse = gone ++ kept ∧
    clusters l.chars = gone ++ kept ++ cluster :: rest ∧
    (gone.map clusterWidth).sum = l.scroll width ∧ ∀ cs ∈ gone, clusterWidth cs ≤ width

variable {l : LineInput} {width : Nat}

theorem scroll_le_iff : l.scroll width ≤ l.cursorColumn - width ↔
    (∃ p, p <+: l.chars ∧ charColumns p = l.cursorColumn - width) ∨
      charColumns l.chars < l.cursorColumn - width := by
  obtain ⟨p, rest, hchars, hscroll, hrest, hshorter⟩ :=
    exists_columnsUpTo (l.cursorColumn - width) 0 l.chars
  have hprefix : p <+: l.chars := hchars ▸ List.prefix_append p rest
  rw [Nat.zero_add] at hscroll hrest
  rw [scroll, hscroll]
  constructor
  · intro hle
    by_cases hall : rest = []
    · rw [hall, List.append_nil] at hchars
      rw [hchars]
      exact (Nat.eq_or_lt_of_le hle).imp_left fun heq => ⟨p, List.prefix_refl p, heq⟩
    · exact .inl ⟨p, hprefix, Nat.le_antisymm hle (hrest hall)⟩
  · rintro (⟨q, hq, hcolumns⟩ | hlt)
    · rcases List.prefix_or_prefix_of_prefix hq hprefix with hqp | ⟨more, rfl⟩
      · by_cases heq : q = p
        · exact Nat.le_of_eq (heq ▸ hcolumns)
        · have := hshorter q hqp heq
          omega
      · rw [Text.charColumns_append] at hcolumns
        omega
    · rw [hchars, Text.charColumns_append] at hlt
      omega

theorem outOfSight_iff (hwidth : 0 < width) :
    l.OutOfSight width ↔ width ≤ l.cursorColumn - l.scroll width := by
  rw [OutOfSight, ← scroll_le_iff]
  omega

/-- A line is scrolled far enough for its cursor if its characters have the columns for it. -/
theorem cursor_sub_scroll_le_iff : l.cursorColumn - l.scroll width ≤ width ↔
    l.cursorColumn ≤ width + charColumns l.chars := by
  obtain ⟨p, rest, hchars, hscroll, hrest, -⟩ :=
    exists_columnsUpTo (l.cursorColumn - width) 0 l.chars
  rw [Nat.zero_add] at hscroll hrest
  rw [scroll, hscroll]
  by_cases hall : rest = []
  · rw [hall, List.append_nil] at hchars
    rw [hchars]
    omega
  · have hwanted := hrest hall
    rw [hchars, Text.charColumns_append]
    omega

/-- Else all of its columns are out of sight. -/
theorem scroll_of_lt (h : width + charColumns l.chars < l.cursorColumn) :
    l.scroll width = charColumns l.chars := by
  obtain ⟨p, rest, hchars, hscroll, hrest, -⟩ :=
    exists_columnsUpTo (l.cursorColumn - width) 0 l.chars
  rw [Nat.zero_add] at hscroll hrest
  rw [scroll, hscroll]
  by_cases hall : rest = []
  · rw [hchars, hall, List.append_nil]
  · have hwanted := hrest hall
    rw [hchars, Text.charColumns_append] at h
    omega

/-- Not even a line that cannot be scrolled far enough has its cursor farther away than it is
wide. -/
theorem cursor_sub_scroll_le (l : LineInput) (width : Nat) :
    l.cursorColumn - l.scroll width ≤ max width (Text.width l.text) := by
  obtain ⟨p, rest, hchars, hscroll, hrest, -⟩ :=
    exists_columnsUpTo (l.cursorColumn - width) 0 l.chars
  rw [Nat.zero_add] at hscroll hrest
  rw [scroll, hscroll]
  by_cases hall : rest = []
  · have hwidth := Text.widthOf_le_of_append l.before.reverse l.after
    have hcolumns : charColumns p = charColumns l.before.reverse + charColumns l.after := by
      rw [← Text.charColumns_append, ← List.append_nil p, ← hall, ← hchars, chars]
    have htext : Text.width l.text = Text.widthOf (l.before.reverse ++ l.after) := by
      rw [Text.width, text, String.toList_ofList, chars]
    rw [cursorColumn, htext]
    omega
  · have := hrest hall
    omega

/-- In a line whose characters are clusters the cursor faces the character behind it. -/
theorem faces_of_alone {c : Char} {after : List Char} (hafter : l.after = c :: after)
    (halone : ∀ d ∈ l.chars, Text.Alone d) (hwidth : ∀ d ∈ l.chars, clusterWidth [d] ≤ width)
    (hpos : 0 < width) : l.Faces width [c] := by
  obtain ⟨p, rest, hchars, hscroll, -, hshorter⟩ :=
    exists_columnsUpTo (l.cursorColumn - width) 0 l.chars
  rw [Nat.zero_add] at hscroll
  have hbefore : ∀ d ∈ l.before.reverse, Text.Alone d := fun d hd =>
    halone d (List.mem_append_left _ hd)
  have hcolumn : l.cursorColumn = charColumns l.before.reverse := Text.widthOf_of_alone hbefore
  -- the characters before the cursor have enough columns
  have hprefix : p <+: l.before.reverse := by
    have hwhole : p <+: l.chars := hchars ▸ List.prefix_append p rest
    have hcursor : l.before.reverse <+: l.chars := List.prefix_append _ _
    rcases List.prefix_or_prefix_of_prefix hwhole hcursor with hp | hp
    · exact hp
    · by_cases heq : l.before.reverse = p
      · exact heq ▸ List.prefix_refl _
      · have := hshorter _ hp heq
        omega
  obtain ⟨kept, hkept⟩ := hprefix
  have hgone : ∀ d ∈ p, d ∈ l.chars := fun d hd => hchars ▸ List.mem_append_left _ hd
  refine ⟨p.map fun c => [c], kept.map fun c => [c], after.map fun c => [c], ?_, ?_, ?_, ?_⟩
  · rw [Text.clusters_of_alone hbefore, ← hkept, List.map_append]
  · rw [Text.clusters_of_alone halone, chars, ← hkept, hafter, List.map_append, List.map_append,
      List.map_cons]
  · rw [Text.sum_clusterWidth_of_alone fun d hd => halone d (hgone d hd), scroll, hscroll]
  · intro cs hcs
    obtain ⟨d, hd, rfl⟩ := List.mem_map.mp hcs
    exact hwidth d (hgone d hd)

/-- In a line of single columns the cursor is out of sight as soon as the text before it fills the
columns that are shown, so always when the line is scrolled. -/
theorem outOfSight_iff_of_single
    (hsingle : ∀ c ∈ l.chars, Text.Alone c ∧ Text.glyphWidth? c = some 1) :
    l.OutOfSight width ↔ width ≤ l.before.length := by
  have hcolumns {p : List Char} (hp : p <+: l.chars) : charColumns p = p.length :=
    Text.charColumns_of_single fun c hc => (hsingle c (hp.subset hc)).2
  have hbefore : l.before.reverse <+: l.chars := List.prefix_append _ _
  have hcolumn : l.cursorColumn = l.before.length := by
    rw [cursorColumn, Text.widthOf_of_alone fun c hc => (hsingle c (hbefore.subset hc)).1,
      hcolumns hbefore, List.length_reverse]
  rw [OutOfSight, hcolumn]
  refine and_iff_left_of_imp fun _ => .inl ?_
  refine ⟨l.before.reverse.take (l.before.length - width), ?_, ?_⟩
  · exact (List.take_prefix _ _).trans hbefore
  · rw [hcolumns ((List.take_prefix _ _).trans hbefore), List.length_take, List.length_reverse]
    omega

end FeedExplorer.Session.LineInput
