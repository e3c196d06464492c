import FeedExplorer.Proofs.Screen.Listing

/-!
# Lines cut at the edges

Where the glyphs of a line end up that is shown from some column on. Main statement: a glyph behind
those that are skipped stands as many columns to the right of the edge as the glyphs between take.
-/

namespace FeedExplorer.Screen

variable {limit skip used : Nat} {gone kept ts : List Glyph} {t : Glyph}

@[simp] theorem columns_nil : columns [] = 0 := rfl

@[simp] theorem columns_cons (t : Glyph) (ts : List Glyph) :
    columns (t :: ts) = t.width + columns ts := rfl

@[simp] theorem columns_append (ts us : List Glyph) :
    columns (ts ++ us) = columns ts + columns us := by
  simp [columns]

/-- Glyphs that fill just the columns to be skipped are gone, but for some without width. -/
theorem cutFrom_gone (hgone : ∀ t ∈ gone, t.width ≤ limit) (hskip : columns gone = skip) :
    ∃ left, columns left = 0 ∧
      ∀ ts, cutFrom limit skip 0 (gone ++ ts) = left ++ cutFrom limit 0 0 ts := by
  induction gone generalizing skip with
  | nil => exact ⟨[], rfl, fun ts => by rw [← hskip]; rfl⟩
  | cons t gone ih =>
    obtain ⟨ht, hgone⟩ := List.forall_mem_cons.mp hgone
    rw [columns_cons] at hskip
    by_cases hzero : skip = 0
    · have hrest : columns gone = 0 := by omega
      obtain ⟨left, hleft, hcut⟩ := ih hgone hrest
      have hwidth : t.width = 0 := by omega
      refine ⟨t :: left, by simp [hwidth, hleft], fun ts => ?_⟩
      simp [cutFrom, hzero, hwidth, hcut]
    · have hrest : columns gone = skip - t.width := by omega
      obtain ⟨left, hleft, hcut⟩ := ih hgone hrest
      refine ⟨left, hleft, fun ts => ?_⟩
      have hskipped : ¬ skip < t.width := by omega
      simp [cutFrom, Nat.not_lt_of_le ht, hzero, hskipped, hcut]

/-- Glyphs for which there is room are kept. -/
theorem cutFrom_kept (hroom : used + columns kept + t.width ≤ limit) (ts : List Glyph) :
    ∃ rest, cutFrom limit 0 used (kept ++ t :: ts) = kept ++ t :: rest := by
  induction kept generalizing used with
  | nil =>
    rw [columns_nil] at hroom
    have hwide : ¬ limit < t.width := by omega
    have hbehind : ¬ limit < used + t.width := by omega
    exact ⟨cutFrom limit 0 (used + t.width) ts, by simp [cutFrom, hwide, hbehind]⟩
  | cons u kept ih =>
    rw [columns_cons] at hroom
    have hwide : ¬ limit < u.width := by omega
    have hbehind : ¬ limit < used + u.width := by omega
    have hroom' : used + u.width + columns kept + t.width ≤ limit := by omega
    obtain ⟨rest, hrest⟩ := ih hroom'
    exact ⟨rest, by simp [cutFrom, hwide, hbehind, hrest]⟩

theorem exists_cut (hgone : ∀ t ∈ gone, t.width ≤ limit) (hskip : columns gone = skip)
    (hroom : columns kept + t.width ≤ limit) (ts : List Glyph) :
    ∃ left rest, cut limit skip (gone ++ kept ++ t :: ts) = left ++ t :: rest ∧
      columns left = columns kept := by
  obtain ⟨first, hfirst, hcut⟩ := cutFrom_gone hgone hskip
  have hstart : 0 + columns kept + t.width ≤ limit := by omega
  obtain ⟨rest, hrest⟩ := cutFrom_kept hstart ts
  refine ⟨first ++ kept, rest, ?_, by simp [hfirst]⟩
  rw [cut, List.append_assoc, hcut, hrest, List.append_assoc]

namespace Grid

variable {g : Grid} {x y : Nat}

/-- A glyph stands as many columns to the right as those before it take. -/
theorem symbol_putGlyphs {left : List Glyph} (ht : 0 < t.width)
    (hcell : (g.get? (x + columns left) y).isSome = true) (ts : List Glyph) :
    ∃ c, (putGlyphs y g x (left ++ t :: ts)).get? (x + columns left) y = some c ∧
      c.symbol = t.symbol := by
  induction left generalizing g x with
  | nil =>
    rw [columns_nil, Nat.add_zero] at hcell ⊢
    obtain ⟨c, hc⟩ := Option.isSome_iff_exists.mp hcell
    have hrest := (strokes_putGlyphs (g.change x y (Cell.write t.symbol t.style))
      (x + t.width) y ts).sameAt (x := x) (y := y) fun _ => by omega
    refine ⟨c.write t.symbol t.style, ?_, rfl⟩
    rw [List.nil_append, putGlyphs, if_neg (Nat.ne_of_gt ht), ← hrest.2, get?_change,
      if_pos ⟨rfl, rfl⟩, hc, Option.map_some]
  | cons u left ih =>
    rw [columns_cons, ← Nat.add_assoc] at hcell ⊢
    rw [List.cons_append, putGlyphs]
    split
    · next hwidth =>
      rw [hwidth, Nat.add_zero] at hcell ⊢
      exact ih hcell
    · apply ih
      have hstroke : Strokes (fun _ _ _ => True) g (g.change x y (Cell.write u.symbol u.style)) :=
        .single trivial
      rw [hstroke.isSome_eq]
      exact hcell

/-- The first of some lines at the left edge. -/
theorem symbol_putLines {a : Area} {left : List Glyph} (hheight : 0 < a.height) (ht : 0 < t.width)
    (hcell : (g.get? (a.x + columns left) a.y).isSome = true) (ts : List Glyph) :
    ∃ c, (g.putLines a .left [left ++ t :: ts]).get? (a.x + columns left) a.y = some c ∧
      c.symbol = t.symbol := by
  have hline : [left ++ t :: ts].take a.height = [left ++ t :: ts] :=
    List.take_of_length_le hheight
  rw [putLines, hline]
  exact symbol_putGlyphs ht hcell ts

end Grid

open Grid (Strokes)

variable {line : Line}

/-- A panel with a single line shows a glyph of it that comes behind those that are skipped. -/
theorem Panel.symbol_paint {p : Panel} {g : Grid} (hcontent : p.content = .lines [line] .left skip)
    (hwithin : p.inside.Within g.area) (hwidth : 0 < p.inside.width) (hheight : 0 < p.inside.height)
    (hline : line.glyphs = gone ++ kept ++ t :: ts)
    (hgone : ∀ t ∈ gone, t.width ≤ p.inside.width) (hskip : columns gone = skip)
    (ht : 0 < t.width) (hroom : columns kept + t.width ≤ p.inside.width)
    (hcell : (g.get? (p.inside.x + columns kept) p.inside.y).isSome = true) :
    ∃ c, (p.paint g).get? (p.inside.x + columns kept) p.inside.y = some c ∧
      c.symbol = t.symbol := by
  have hempty : ¬ p.inside.isEmpty = true := by
    simp only [Area.isEmpty, Bool.or_eq_true, beq_iff_eq]
    omega
  obtain ⟨left, rest, hcut, hcolumns⟩ := exists_cut hgone hskip hroom ts
  rw [paint_eq, hwithin.inter_eq, if_neg hempty, hcontent, Grid.putContent, List.map_singleton,
    Grid.skipFor, hline, hcut, ← hcolumns]
  apply Grid.symbol_putLines hheight ht
  rw [(p.strokes_framed g).isSome_eq, hcolumns]
  exact hcell

/-- The same in a whole drawing, as long as no later panel is on the row. -/
theorem Drawing.symbol_paint {d : Drawing} {before after : List Panel} {p : Panel} {w h : Nat}
    (hpanels : d.panels = before ++ p :: after)
    (hafter : ∀ q ∈ after, p.inside.y < q.area.y ∨ q.area.bottom ≤ p.inside.y)
    (hcontent : p.content = .lines [line] .left skip)
    (hwithin : p.inside.Within (Grid.blank w h).area) (hwidth : 0 < p.inside.width)
    (hheight : 0 < p.inside.height) (hline : line.glyphs = gone ++ kept ++ t :: ts)
    (hgone : ∀ t ∈ gone, t.width ≤ p.inside.width) (hskip : columns gone = skip)
    (ht : 0 < t.width) (hroom : columns kept + t.width ≤ p.inside.width) :
    ∃ c, (d.paint w h).get? (p.inside.x + columns kept) p.inside.y = some c ∧
      c.symbol = t.symbol := by
  have hbefore := strokes_foldl_paint before (.blank w h)
  have hcell : (Grid.blank w h).get? (p.inside.x + columns kept) p.inside.y = some .blank := by
    obtain ⟨-, hright, -, hbottom⟩ := hwithin
    simp only [Area.right, Area.bottom, Grid.area, Grid.blank] at hright hbottom
    exact Grid.get?_blank (by omega) (by omega)
  rw [Drawing.paint, hpanels, List.foldl_append, List.foldl_cons,
    ← (sameAt_foldl_paint _ hafter).2]
  apply Panel.symbol_paint hcontent (hbefore.area_eq ▸ hwithin) hwidth hheight hline hgone hskip ht
    hroom
  rw [hbefore.isSome_eq, hcell]
  rfl

end FeedExplorer.Screen
