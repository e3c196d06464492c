import FeedExplorer.Proofs.Screen.Strips
import FeedExplorer.Proofs.Screen.Stroke

/-!
# Lists on a screen

What a panel of rows looks like when a whole drawing has been painted. Main statements: as long as
no other panel is on its rows it shows each of them just as if it alone had been painted, and a row
stands out just when its style has a ground.
-/

namespace FeedExplorer.Screen

namespace Grid

/-- The area shows some rows from its top on, each as if it alone had been painted on a blank
screen, and nothing below them. -/
def Shows (g : Grid) (a : Area) (rows : List Row) : Prop :=
  rows.length ≤ a.height ∧ ∀ i < a.height, ∀ x, a.x ≤ x → x < a.right →
    g.get? x (a.y + i) =
      ((blank g.width g.height).putRows (a.row i) rows[i]?.toList).get? x (a.y + i)

/-- The row `i` of the area stands out: one of its cells has a ground of its own. -/
def Lit (g : Grid) (a : Area) (i : Nat) : Prop :=
  ∃ x c, a.x ≤ x ∧ x < a.right ∧ g.get? x (a.y + i) = some c ∧ c.ground ≠ .reset

theorem blank_congr {g g' : Grid} (h : g.area = g'.area) :
    blank g.width g.height = blank g'.width g'.height :=
  congrArg (fun a : Area => blank a.width a.height) h

/-! ## Painting is done cell by cell -/

namespace SameAt

variable {x y : Nat} {g g' g'' : Grid}

theorem refl (g : Grid) : SameAt x y g g :=
  ⟨rfl, rfl⟩

theorem symm (h : SameAt x y g g') : SameAt x y g' g :=
  ⟨h.1.symm, h.2.symm⟩

theorem trans (h : SameAt x y g g') (h' : SameAt x y g' g'') : SameAt x y g g'' :=
  ⟨h.1.trans h'.1, h.2.trans h'.2⟩

theorem change (h : SameAt x y g g') (x' y' : Nat) (f : Cell → Cell) :
    SameAt x y (g.change x' y' f) (g'.change x' y' f) := by
  refine ⟨by simp [h.1], ?_⟩
  rw [get?_change, get?_change, h.2]

theorem changeAll (h : SameAt x y g g') (a : Area) (f : Cell → Cell) :
    SameAt x y (g.changeAll a f) (g'.changeAll a f) := by
  refine ⟨by simp [h.1], ?_⟩
  rw [get?_changeAll, get?_changeAll, h.1, h.2]

theorem restyle (h : SameAt x y g g') (a : Area) (s : Style) :
    SameAt x y (g.restyle a s) (g'.restyle a s) := by
  rw [Grid.restyle, Grid.restyle]
  split_ifs
  · exact h
  · exact h.changeAll a _

theorem putSpan (h : SameAt x y g g') (a : Area) (x' : Nat) (isFirst : Bool) (ts : List Glyph) :
    SameAt x y (Grid.putSpan a g x' isFirst ts) (Grid.putSpan a g' x' isFirst ts) := by
  induction ts generalizing g g' x' isFirst with
  | nil => exact h
  | cons t ts ih =>
    rw [Grid.putSpan, Grid.putSpan]
    split
    · exact h
    apply ih
    apply changeAll
    split_ifs <;> exact h.change _ _ _

theorem putLine (h : SameAt x y g g') (a : Area) (l : Line) :
    SameAt x y (Grid.putLine g a l) (Grid.putLine g' a l) := by
  induction l generalizing g g' a with
  | nil => exact h
  | cons s l ih =>
    rw [Grid.putLine, Grid.putLine]
    split_ifs
    · exact ih h a
    · exact h
    · exact ih (h.putSpan a a.x true s.glyphs) _

end SameAt

/-! ## Rows -/

section Rows

variable {g g' : Grid} {a : Area} {x : Nat}

theorem putRows_row (g : Grid) (a : Area) (i : Nat) (row : Row) :
    g.putRows (a.row i) [row] = (g.restyle (a.row i) row.style).putLine (a.row i) row.line := rfl

theorem sameAt_foldl_rows (rows : List Row) (k i : Nat) (h : SameAt x (a.y + (k + i)) g g') :
    SameAt x (a.y + (k + i))
      ((rows.zipIdx k).foldl (fun g r => g.putRows (a.row r.2) [r.1]) g)
      (g'.putRows (a.row (k + i)) rows[i]?.toList) := by
  induction rows generalizing k i g with
  | nil => exact h
  | cons row rows ih =>
    rw [List.zipIdx_cons, List.foldl_cons]
    cases i with
    | zero =>
      -- the rows that follow lie below this one
      have hbelow (g : Grid) : SameAt x (a.y + k) g
          ((rows.zipIdx (k + 1)).foldl (fun g r => g.putRows (a.row r.2) [r.1]) g) := by
        have hstrokes : Strokes (fun _ y _ => a.y + k < y) g
            ((rows.zipIdx (k + 1)).foldl (fun g r => g.putRows (a.row r.2) [r.1]) g) := by
          apply Strokes.foldl
          rintro g ⟨row, j⟩ hrow
          have hj := (List.mem_zipIdx hrow).1
          apply (g.strokes_row (a.row j) row).mono
          rintro _ y _ rfl
          simp only [Area.row]
          omega
        apply hstrokes.sameAt
        intro _
        omega
      apply (hbelow _).symm.trans
      exact (h.restyle _ _).putLine _ _
    | succ i =>
      have hplace : k + (i + 1) = k + 1 + i := by omega
      rw [hplace] at h ⊢
      apply ih
      apply SameAt.trans (SameAt.symm _) h
      apply (g.strokes_row (a.row k) row).sameAt
      intro _
      simp only [Area.row]
      omega

theorem sameAt_putRows {i : Nat} (h : SameAt x (a.y + i) g g') (hi : i < a.height)
    (rows : List Row) :
    SameAt x (a.y + i) (g.putRows a rows) (g'.putRows (a.row i) rows[i]?.toList) := by
  have hrow := sameAt_foldl_rows (rows.take a.height) 0 i (by rwa [Nat.zero_add])
  rwa [List.getElem?_take_of_lt hi, Nat.zero_add] at hrow

theorem shows_putRows {rows : List Row} (hrows : rows.length ≤ a.height)
    (hblank : ∀ x y, a.Contains x y → SameAt x y (blank g.width g.height) g) :
    (g.putRows a rows).Shows a rows := by
  refine ⟨hrows, fun i hi x hleft hright => ?_⟩
  have hplace : a.Contains x (a.y + i) :=
    ⟨hleft, hright, Nat.le_add_right _ _, Nat.add_lt_add_left hi _⟩
  rw [blank_congr (g.strokes_putRows a rows).area_eq]
  exact (sameAt_putRows (hblank x (a.y + i) hplace).symm hi rows).2

theorem Shows.congr {rows : List Row} (h : g.Shows a rows) (harea : g.area = g'.area)
    (hsame : ∀ x y, a.Contains x y → SameAt x y g g') : g'.Shows a rows := by
  refine ⟨h.1, fun i hi x hleft hright => ?_⟩
  have hplace : a.Contains x (a.y + i) :=
    ⟨hleft, hright, Nat.le_add_right _ _, Nat.add_lt_add_left hi _⟩
  rw [← (hsame x (a.y + i) hplace).2, ← blank_congr harea]
  exact h.2 i hi x hleft hright

end Rows

/-! ## Rows that stand out -/

theorem get?_blank {w h x y : Nat} (hx : x < w) (hy : y < h) :
    (blank w h).get? x y = some .blank := by
  have hindex : y * w + x < w * h := by
    calc y * w + x < y * w + w := Nat.add_lt_add_left hx _
      _ = (y + 1) * w := by rw [Nat.add_mul, Nat.one_mul]
      _ ≤ h * w := Nat.mul_le_mul_right _ hy
      _ = w * h := Nat.mul_comm _ _
  change (if x < w then (Array.replicate (w * h) Cell.blank)[y * w + x]? else none) = _
  rw [if_pos hx, Array.getElem?_replicate, if_pos hindex]

theorem eq_blank_of_mem {w h x y : Nat} {c : Cell} (hc : c ∈ (blank w h).get? x y) :
    c = .blank := by
  change (if x < w then (Array.replicate (w * h) Cell.blank)[y * w + x]? else none) = some c at hc
  rw [Array.getElem?_replicate] at hc
  split_ifs at hc
  exact (Option.some.inj hc).symm

section Ground

variable {g : Grid} {a : Area} {x y : Nat}

theorem ground_restyle {s : Style} (hs : s.ground = none)
    (h : ∀ c ∈ g.get? x y, c.ground = .reset) :
    ∀ c ∈ (g.restyle a s).get? x y, c.ground = .reset := by
  apply (g.strokes_restyle a s).keeps _ h
  rintro _ ⟨-, rfl⟩ c hc
  rw [Cell.restyle, hs]
  exact hc

/-- A line whose styles have no ground leaves none. -/
theorem ground_putLine {l : Line} (hl : ∀ s ∈ l, s.style.ground = none)
    (h : ∀ c ∈ g.get? x y, c.ground = .reset) :
    ∀ c ∈ (g.putLine a l).get? x y, c.ground = .reset := by
  apply (g.strokes_putLine a l).keeps _ h
  rintro f ⟨-, hf | ⟨-, rfl⟩⟩ c hc
  · rw [hf.ground_eq (List.forall_mem_map.mpr hl), hc]
  · rfl

/-- A line on a ground keeps it in its first column, where nothing is blanked. -/
theorem exists_ground {w h : Nat} {s : Style} {l : Line} {color : Color}
    (hs : s.ground = some color) (hl : ∀ s ∈ l, s.style.ground = none)
    (hinside : (blank w h).area.Contains a.x a.y) (hwidth : 0 < a.width) (hheight : 0 < a.height) :
    ∃ c, (((blank w h).restyle a s).putLine a l).get? a.x a.y = some c ∧ c.ground = color := by
  have hplace : (a.inter (blank w h).area).Contains a.x a.y := by
    rw [Area.contains_inter]
    refine ⟨?_, hinside⟩
    simp only [Area.Contains, Area.right, Area.bottom]
    omega
  have hcell : (blank w h).get? a.x a.y = some .blank := by
    simp only [Area.Contains, Area.right, Area.bottom, area, blank] at hinside
    exact get?_blank (by omega) (by omega)
  have hrestyled : ∀ c ∈ ((blank w h).restyle a s).get? a.x a.y, c.ground = color := by
    intro c hc
    rw [get?_restyle, if_pos hplace, hcell] at hc
    obtain rfl := Option.some.inj hc
    simp [Cell.restyle, hs]
  have hpainted : ∀ c ∈ (((blank w h).restyle a s).putLine a l).get? a.x a.y,
      c.ground = color := by
    apply (strokes_putLine _ a l).keeps _ hrestyled
    rintro f ⟨-, hf | ⟨hlt, -⟩⟩ c hc
    · rw [hf.ground_eq (List.forall_mem_map.mpr hl), hc]
    · exact absurd hlt (Nat.lt_irrefl _)
  have hsome : (((blank w h).restyle a s).putLine a l).get? a.x a.y ≠ none := by
    rw [← Option.isSome_iff_ne_none, (strokes_putLine _ _ _).isSome_eq,
      (strokes_restyle _ _ _).isSome_eq, hcell]
    rfl
  obtain ⟨c, hc⟩ := Option.ne_none_iff_exists'.mp hsome
  exact ⟨c, hc, hpainted c hc⟩

end Ground

section Lit

variable {g g' : Grid} {a : Area} {rows : List Row} {i : Nat}

/-- The row of a list stands out just when its style has a ground. -/
theorem Shows.lit_iff (h : g.Shows a rows) (hwithin : a.Within g.area) (hwidth : 0 < a.width)
    (hrows : ∀ row ∈ rows, row.style.ground ≠ some .reset ∧ ∀ s ∈ row.line, s.style.ground = none)
    (hi : i < a.height) : g.Lit a i ↔ ∃ row, rows[i]? = some row ∧ row.style.ground ≠ none := by
  have hblank {x y : Nat} : ∀ c ∈ (blank g.width g.height).get? x y, c.ground = .reset :=
    fun c hc => eq_blank_of_mem hc ▸ rfl
  constructor
  · rintro ⟨x, c, hleft, hright, hc, hground⟩
    rw [h.2 i hi x hleft hright] at hc
    cases hrow : rows[i]? with
    | none =>
      rw [hrow] at hc
      exact absurd (hblank c hc) hground
    | some row =>
      refine ⟨row, rfl, fun hnone => hground ?_⟩
      rw [hrow, Option.toList_some, putRows_row] at hc
      have hline := (hrows row (List.mem_of_getElem? hrow)).2
      exact ground_putLine hline (ground_restyle hnone hblank) c hc
  · rintro ⟨row, hrow, hsome⟩
    obtain ⟨color, hcolor⟩ := Option.ne_none_iff_exists'.mp hsome
    obtain ⟨hreset, hline⟩ := hrows row (List.mem_of_getElem? hrow)
    have hinside : (blank g.width g.height).area.Contains a.x (a.y + i) := by
      obtain ⟨-, hx, -, hy⟩ := hwithin
      simp only [Area.Contains, Area.right, Area.bottom, area, blank] at hx hy ⊢
      omega
    obtain ⟨c, hc, hground⟩ := exists_ground (a := a.row i) hcolor hline hinside hwidth Nat.one_pos
    have hright : a.x < a.right := Nat.lt_add_of_pos_right hwidth
    have hshown := h.2 i hi a.x (Nat.le_refl _) hright
    rw [hrow, Option.toList_some, putRows_row] at hshown
    refine ⟨a.x, c, Nat.le_refl _, hright, hshown.trans hc, fun heq => hreset ?_⟩
    rw [hcolor, ← hground, heq]

/-- Where no cell has a ground no row stands out. -/
theorem not_lit (h : ∀ x y, a.Contains x y → ∀ c ∈ g.get? x y, c.ground = .reset)
    (hi : i < a.height) : ¬ g.Lit a i := by
  rintro ⟨x, c, hleft, hright, hc, hground⟩
  apply hground
  exact h x (a.y + i) ⟨hleft, hright, Nat.le_add_right _ _, Nat.add_lt_add_left hi _⟩ c hc

end Lit

end Grid

/-! ## Panels with a frame -/

namespace Panel

open Grid (Strokes SameAt)

variable {p : Panel} {f : Frame} {g : Grid} {x y : Nat}

theorem not_onEdge_inner {a : Area} (h : a.inner.Contains x y) : ¬ Grid.OnEdge a x y := by
  simp only [Area.Contains, Area.inner, Grid.OnEdge, Area.right, Area.bottom] at h ⊢
  omega

/-- A frame leaves what is inside alone. -/
theorem sameAt_framed (hframe : p.frame = some f) (hwithin : p.area.Within g.area)
    (h : p.area.inner.Contains x y) : SameAt x y (g.restyle p.area p.style) (p.framed g) := by
  rw [framed, hframe]
  apply (Grid.strokes_putFrame _ _ _).sameAt
  intro _
  rw [Grid.area_restyle, hwithin.inter_eq]
  exact not_onEdge_inner h

theorem paint_of_frame (hframe : p.frame = some f) (hwithin : p.area.Within g.area)
    (hwidth : 0 < p.area.inner.width) (hheight : 0 < p.area.inner.height) :
    p.paint g = (p.framed g).putContent p.area.inner p.content := by
  have hinner : p.inside.inter g.area = p.area.inner := by
    rw [inside, hframe, Option.isSome_some, if_pos rfl]
    exact (p.area.within_inner.trans hwithin).inter_eq
  rw [paint_eq, hinner, if_neg]
  simp only [Area.isEmpty, Bool.or_eq_true, beq_iff_eq]
  omega

theorem shows_paint {rows : List Row} (hframe : p.frame = some f) (hstyle : p.style = .plain)
    (hcontent : p.content = .rows rows) (hwithin : p.area.Within g.area)
    (hwidth : 0 < p.area.inner.width) (hheight : 0 < p.area.inner.height)
    (hrows : rows.length ≤ p.area.inner.height)
    (hblank : ∀ x y, p.area.inner.Contains x y → SameAt x y (.blank g.width g.height) g) :
    (p.paint g).Shows p.area.inner rows := by
  rw [paint_of_frame hframe hwithin hwidth hheight, hcontent]
  apply Grid.shows_putRows hrows
  intro x y hplace
  have hframed := sameAt_framed hframe hwithin hplace
  rw [hstyle, Grid.restyle, if_pos rfl] at hframed
  rw [Grid.blank_congr (p.strokes_framed g).area_eq]
  exact (hblank x y hplace).trans hframed

theorem mem_of_mem_cutFrom {limit skip used : Nat} {t : Glyph} {ts : List Glyph}
    (h : t ∈ cutFrom limit skip used ts) : t ∈ ts := by
  induction ts generalizing skip used with
  | nil => exact h
  | cons u ts ih =>
    rw [cutFrom] at h
    split_ifs at h
    · exact List.mem_cons_of_mem _ (ih h)
    · exact absurd h List.not_mem_nil
    · rcases List.mem_cons.mp h with rfl | h
      · exact List.mem_cons_self
      · exact List.mem_cons_of_mem _ (ih h)
    · exact List.mem_cons_of_mem _ (ih h)

/-- Lines whose styles have no ground let no row stand out. -/
theorem not_lit_paint {lines : List Line} {alignment : Alignment} {skip i : Nat}
    (hframe : p.frame = some f) (hstyle : p.style.ground = none)
    (hcontent : p.content = .lines lines alignment skip)
    (hlines : ∀ l ∈ lines, ∀ s ∈ l, s.style.ground = none) (hwithin : p.area.Within g.area)
    (hwidth : 0 < p.area.inner.width) (hi : i < p.area.inner.height)
    (hblank : ∀ x y, p.area.inner.Contains x y → SameAt x y (.blank g.width g.height) g) :
    ¬ (p.paint g).Lit p.area.inner i := by
  rw [paint_of_frame hframe hwithin hwidth (by omega), hcontent]
  apply Grid.not_lit _ hi
  intro x y hplace
  have hframed : ∀ c ∈ (p.framed g).get? x y, c.ground = .reset := by
    rw [← (sameAt_framed hframe hwithin hplace).2]
    apply Grid.ground_restyle hstyle
    rw [← (hblank x y hplace).2]
    exact fun c hc => Grid.eq_blank_of_mem hc ▸ rfl
  apply (Grid.strokes_putLines _ _ _ _).keeps _ hframed
  rintro g ⟨-, hg⟩ c hc
  rw [hg.ground_eq _ c, hc]
  intro style hstyle
  obtain ⟨t, ht, rfl⟩ := List.mem_map.mp hstyle
  obtain ⟨ts, hts, ht⟩ := List.mem_flatten.mp ht
  obtain ⟨l, hl, rfl⟩ := List.mem_map.mp hts
  obtain ⟨s, hs, ht⟩ := List.mem_flatMap.mp (mem_of_mem_cutFrom ht)
  rw [Grid.style_of_mem_glyphs ht]
  exact hlines l hl s hs

end Panel

/-! ## Whole drawings -/

namespace Drawing

open Grid (Strokes SameAt)

/-- Two panels have no row in common. -/
def Apart (p q : Panel) : Prop :=
  p.area.bottom ≤ q.area.y ∨ q.area.bottom ≤ p.area.y

theorem sameAt_foldl_paint {ps : List Panel} {x y : Nat} (g : Grid)
    (h : ∀ q ∈ ps, y < q.area.y ∨ q.area.bottom ≤ y) :
    SameAt x y g (ps.foldl (fun g q => q.paint g) g) := by
  have hstrokes : Strokes (fun _ y' _ => y' ≠ y) g (ps.foldl (fun g q => q.paint g) g) := by
    apply Strokes.foldl
    intro g q hq
    apply (q.strokes_paint g).mono
    rintro _ _ _ ⟨htop, hbottom⟩ rfl
    have := h q hq
    omega
  exact hstrokes.sameAt fun _ hne => hne rfl

variable {d : Drawing} {before after : List Panel} {p : Panel} {f : Frame} {w h : Nat}

theorem strokes_foldl_paint (ps : List Panel) (g : Grid) :
    Strokes (fun _ _ _ => True) g (ps.foldl (fun g q => q.paint g) g) :=
  Strokes.foldl fun g q _ => (q.strokes_paint g).mono fun _ _ _ _ => trivial

theorem area_paint (d : Drawing) (w h : Nat) : (d.paint w h).area = (Grid.blank w h).area :=
  (strokes_foldl_paint d.panels _).area_eq

/-- Of a panel that is apart from the others a drawing shows what it looks like on a blank
screen. -/
theorem exists_paint (hpanels : d.panels = before ++ p :: after)
    (hapart : ∀ q ∈ before ++ after, Apart q p) :
    ∃ g : Grid, g.area = (Grid.blank w h).area ∧ ∀ x y, p.area.inner.Contains x y →
      SameAt x y (.blank g.width g.height) g ∧ SameAt x y (p.paint g) (d.paint w h) := by
  have hrow {x y : Nat} (hplace : p.area.inner.Contains x y) (q : Panel)
      (hq : q ∈ before ++ after) : y < q.area.y ∨ q.area.bottom ≤ y := by
    have hq := hapart q hq
    simp only [Apart, Area.Contains, Area.inner, Area.bottom] at hq hplace ⊢
    omega
  have harea := (strokes_foldl_paint before (.blank w h)).area_eq
  refine ⟨_, harea, fun x y hplace => ⟨?_, ?_⟩⟩
  · have hsame := sameAt_foldl_paint (x := x) (.blank w h) fun q hq =>
      hrow hplace q (List.mem_append_left _ hq)
    rw [Grid.blank_congr harea]
    exact hsame
  · rw [Drawing.paint, hpanels, List.foldl_append, List.foldl_cons]
    exact sameAt_foldl_paint _ fun q hq => hrow hplace q (List.mem_append_right _ hq)

/-- A panel of rows that is apart from the others. -/
theorem shows_paint {rows : List Row} (hpanels : d.panels = before ++ p :: after)
    (hapart : ∀ q ∈ before ++ after, Apart q p) (hframe : p.frame = some f)
    (hstyle : p.style = .plain) (hcontent : p.content = .rows rows)
    (hwithin : p.area.Within (Grid.blank w h).area) (hwidth : 0 < p.area.inner.width)
    (hheight : 0 < p.area.inner.height) (hrows : rows.length ≤ p.area.inner.height) :
    (d.paint w h).Shows p.area.inner rows := by
  obtain ⟨g, harea, hsame⟩ := exists_paint (w := w) (h := h) hpanels hapart
  have hdrawn : (p.paint g).area = (d.paint w h).area := by
    rw [(p.strokes_paint g).area_eq, harea, area_paint]
  apply Grid.Shows.congr _ hdrawn fun x y hplace => (hsame x y hplace).2
  exact Panel.shows_paint hframe hstyle hcontent (harea ▸ hwithin) hwidth hheight hrows
    fun x y hplace => (hsame x y hplace).1

/-- A panel of lines that is apart from the others. -/
theorem not_lit_paint {lines : List Line} {alignment : Alignment} {skip i : Nat}
    (hpanels : d.panels = before ++ p :: after) (hapart : ∀ q ∈ before ++ after, Apart q p)
    (hframe : p.frame = some f) (hstyle : p.style.ground = none)
    (hcontent : p.content = .lines lines alignment skip)
    (hlines : ∀ l ∈ lines, ∀ s ∈ l, s.style.ground = none)
    (hwithin : p.area.Within (Grid.blank w h).area) (hwidth : 0 < p.area.inner.width)
    (hi : i < p.area.inner.height) : ¬ (d.paint w h).Lit p.area.inner i := by
  obtain ⟨g, harea, hsame⟩ := exists_paint (w := w) (h := h) hpanels hapart
  have hnot := Panel.not_lit_paint (g := g) hframe hstyle hcontent hlines (harea ▸ hwithin) hwidth
    hi fun x y hplace => (hsame x y hplace).1
  rintro ⟨x, c, hleft, hright, hc, hground⟩
  have hplace : p.area.inner.Contains x (p.area.inner.y + i) :=
    ⟨hleft, hright, Nat.le_add_right _ _, Nat.add_lt_add_left hi _⟩
  exact hnot ⟨x, c, hleft, hright, (hsame _ _ hplace).2.2.trans hc, hground⟩

end Drawing

end FeedExplorer.Screen
