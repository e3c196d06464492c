import FeedExplorer.Proofs.Screen.Cutting
import FeedExplorer.Proofs.Session.Scrolling
import FeedExplorer.Proofs.View.FeedPage
import FeedExplorer.View.Basic

/-!
# The cursor of a typed line

Where the cursor of the address and of the search line stands on the screen. Main statement: as soon
as the line has a cell the cursor is shown in the cell of the character that it stands in front of,
unless the line is scrolled so that the cursor comes to stand behind the last column; then it is not
shown at all, as long as its column can be counted.
-/

namespace FeedExplorer.View

open scoped Number
open Screen (Area Drawing Glyph Grid Panel columns)
open Session (LineInput)
open Text (clusterWidth)

/-! ## A line on a drawing -/

/-- A drawing has a line in an area, and its cursor is that of the line. -/
structure Types (d : Drawing) (l : LineInput) (a screen : Area) : Prop where
  cursor : d.cursor = cursorCell? l a.x a.y a.width a.right
  /-- Later panels are below the area. -/
  panels : ∃ before p after hint, d.panels = before ++ p :: after ∧ p.inside = a ∧
    p.content = inputContent l hint a.width ∧ ∀ q ∈ after, a.bottom ≤ q.area.y
  within : a.Within screen

section Line

variable {d : Drawing} {l : LineInput} {a : Area} {w h : Nat}

/-- The distance of the cursor from the edge need not be narrowed before the sum is. -/
theorem Types.cursor_eq (ht : Types d l a (screenOf w h)) :
    let column := (a.x + (l.cursorColumn - l.scroll a.width)) % columnLimit
    d.cursor = if column < a.right then some (column, a.y) else none := by
  rw [ht.cursor, cursorCell?, Nat.add_mod_mod]
  rfl

/-- In sight of the line no column goes around. -/
theorem Types.column_eq (ht : Types d l a (screenOf w h)) (hw : w < columnLimit)
    (hwidth : 0 < a.width) (hshown : ¬ l.OutOfSight a.width) :
    let column := a.x + (l.cursorColumn - l.scroll a.width)
    column < a.right ∧ column % columnLimit = column := by
  have hlt : l.cursorColumn - l.scroll a.width < a.width :=
    Nat.lt_of_not_le fun hle => hshown ((LineInput.outOfSight_iff hwidth).mpr hle)
  have hright : a.right ≤ 0 + w := ht.within.right
  intro column
  have hcolumn : column < a.right := Nat.add_lt_add_left hlt _
  exact ⟨hcolumn, Nat.mod_eq_of_lt (by omega)⟩

/-- A cursor that stands behind the line is shown only if its column goes around, which it can do
once. -/
theorem Types.cursor_eq_none_iff (ht : Types d l a (screenOf w h)) (hw : w < columnLimit)
    (htext : Text.width l.text < columnLimit) (hwidth : 0 < a.width) :
    let column := a.x + (l.cursorColumn - l.scroll a.width)
    d.cursor = none ↔
      l.OutOfSight a.width ∧ (column < columnLimit ∨ a.right ≤ column - columnLimit) := by
  intro column
  have hright : a.x + a.width ≤ 0 + w := ht.within.right
  have hoffset : l.cursorColumn - l.scroll a.width < columnLimit :=
    Nat.lt_of_le_of_lt (l.cursor_sub_scroll_le a.width) (Nat.max_lt.mpr ⟨by omega, htext⟩)
  have hbehind : l.OutOfSight a.width ↔ a.right ≤ column := by
    rw [LineInput.outOfSight_iff hwidth]
    exact Nat.add_le_add_iff_left.symm
  have hnone : d.cursor = none ↔ a.right ≤ column % columnLimit := by
    rw [ht.cursor_eq]
    split
    · next hlt => exact iff_of_false nofun (Nat.not_le_of_lt hlt)
    · next hge => exact iff_of_true rfl (Nat.le_of_not_lt hge)
  rw [hnone, hbehind]
  by_cases hfits : column < columnLimit
  · rw [Nat.mod_eq_of_lt hfits]
    simp [hfits]
  · have haround : column % columnLimit = column - columnLimit := by
      rw [Nat.mod_eq_sub_mod (Nat.le_of_not_lt hfits), Nat.mod_eq_of_lt (by omega)]
    have hfar : a.right ≤ column := by
      rw [Area.right]
      omega
    rw [haround]
    simp [hfits, hfar]

/-- A cluster of a line as it is shown. -/
def typedGlyph (cluster : List Char) : Glyph :=
  { symbol := cluster, width := clusterWidth cluster, style := .ofInk .white }

theorem columns_typedGlyph (clusters : List (List Char)) :
    columns (clusters.map typedGlyph) = (clusters.map clusterWidth).sum := by
  rw [columns, List.map_map]
  rfl

theorem glyphs_inputLine (hint : String) (hne : l.chars ≠ []) (hline : '\n' ∉ l.chars) :
    (inputLine l hint).glyphs = (Text.clusters l.chars).map typedGlyph := by
  have hempty : ¬ l.isEmpty = true := by
    rw [LineInput.isEmpty, Bool.and_eq_true, List.isEmpty_iff, List.isEmpty_iff]
    rintro ⟨hbefore, hafter⟩
    exact hne (by rw [LineInput.chars, hbefore, hafter]; rfl)
  have hfeed : (Text.clusters l.chars).filter (· != ['\n']) = Text.clusters l.chars := by
    rw [List.filter_eq_self]
    rintro cluster hcluster
    rw [bne_iff_ne]
    rintro rfl
    apply hline
    rw [← Text.flatten_clusters l.chars]
    exact List.mem_flatten.mpr ⟨_, hcluster, List.mem_singleton_self _⟩
  rw [inputLine, if_neg hempty, Screen.Line.glyphs, List.flatMap_singleton, Screen.Span.glyphs,
    LineInput.text, String.toList_ofList, hfeed]
  rfl

/-- In the cell of the cursor there is the cluster that it faces. -/
theorem Types.symbol_eq (ht : Types d l a (screenOf w h)) (hheight : 0 < a.height)
    (htext : Text.width l.text < columnLimit) {cluster : List Char}
    (hfaces : l.Faces a.width cluster) (hline : '\n' ∉ l.chars) (hpos : 0 < clusterWidth cluster)
    (hroom : l.cursorColumn - l.scroll a.width + clusterWidth cluster ≤ a.width) :
    ∃ c, (d.paint w h).get? (a.x + (l.cursorColumn - l.scroll a.width)) a.y = some c ∧
      c.symbol = cluster := by
  obtain ⟨before, p, after, hint, hpanels, rfl, hcontent, hbelow⟩ := ht.panels
  obtain ⟨gone, kept, rest, hbefore, hchars, hscroll, hgone⟩ := hfaces
  have hne : l.chars ≠ [] := by
    intro hnil
    rw [hnil] at hchars
    simp [Text.clusters] at hchars
  have hglyphs : (inputLine l hint).glyphs =
      gone.map typedGlyph ++ kept.map typedGlyph ++ typedGlyph cluster :: rest.map typedGlyph := by
    rw [glyphs_inputLine hint hne hline, hchars]
    simp
  have hkept : columns (kept.map typedGlyph) = l.cursorColumn - l.scroll p.inside.width := by
    rw [columns_typedGlyph, LineInput.cursorColumn, Text.widthOf, hbefore, ← hscroll,
      List.map_append, List.sum_append]
    omega
  have hlimit : l.scroll p.inside.width % columnLimit = l.scroll p.inside.width := by
    apply Nat.mod_eq_of_lt
    apply Nat.lt_of_le_of_lt _ htext
    rw [← hscroll, Text.width, LineInput.text, String.toList_ofList, Text.widthOf, hchars]
    simp only [List.map_append, List.sum_append]
    omega
  rw [← hkept] at hroom ⊢
  have hafter : ∀ q ∈ after, p.inside.y < q.area.y ∨ q.area.bottom ≤ p.inside.y := by
    intro q hq
    have := hbelow q hq
    rw [Area.bottom] at this
    omega
  refine Drawing.symbol_paint hpanels hafter (t := typedGlyph cluster) hcontent ?_ ?_ hheight
    hglyphs ?_ ?_ hpos hroom
  · exact ht.within
  · have : 0 < p.inside.width := Nat.lt_of_lt_of_le (Nat.add_pos_right _ hpos) hroom
    exact this
  · intro t htgone
    obtain ⟨cs, hcs, rfl⟩ := List.mem_map.mp htgone
    exact hgone cs hcs
  · rw [hlimit, columns_typedGlyph, hscroll]

end Line

/-! ## The pages on which a line is typed -/

theorem FeedPage.panels_around_search (now : Nat) (s : Session) (screen : Area) :
    panels now s screen =
      ({ area := strip s screen 0, style := .plain, frame := none
         content := .lines [header s] .left 0 } :: totals s (strip s screen 1)) ++
      searchPanel s (strip s screen 2) ::
        ((s.feedState.lastError.map (failurePanel (strip s screen 3))).toList ++
          [listPanel now s (strip s screen 4), helpPanel s (strip s screen 5)]) := by
  simp [panels]

theorem FeedPage.bottom_search_le (now : Nat) (s : Session) (screen : Area) :
    ∀ q ∈ (s.feedState.lastError.map (failurePanel (strip s screen 3))).toList ++
        [listPanel now s (strip s screen 4), helpPanel s (strip s screen 5)],
      (strip s screen 2).inner.bottom ≤ q.area.y := by
  have hinner := (strip s screen 2).within_inner.bottom
  intro q hq
  apply Nat.le_trans hinner
  simp only [List.mem_append, List.mem_cons, List.not_mem_nil, or_false, Option.mem_toList,
    Option.map_eq_some_iff] at hq
  rcases hq with ⟨text, -, rfl⟩ | rfl | rfl
  · exact bottom_strip_le s screen (by omega : 2 < 3) (by omega)
  · exact bottom_strip_le s screen (by omega : 2 < 4) (by omega)
  · rw [area_helpPanel]
    exact bottom_strip_le s screen (by omega : 2 < 5) (by omega)

theorem FeedPage.types (now : Nat) (s : Session) (w h : Nat)
    (hwidth : 0 < (strip s (screenOf w h) 2).inner.width)
    (hheight : 0 < (strip s (screenOf w h) 2).inner.height) :
    Types (draw now s (screenOf w h)) s.search (strip s (screenOf w h) 2).inner
      (screenOf w h) where
  cursor := by
    -- there is an edge on each side
    have hx : (strip s (screenOf w h) 2).inner.x = (strip s (screenOf w h) 2).x + 1 := by
      simp only [Area.inner, Area.right] at hwidth ⊢
      omega
    have hy : (strip s (screenOf w h) 2).inner.y = (strip s (screenOf w h) 2).y + 1 := by
      simp only [Area.inner, Area.bottom] at hheight ⊢
      omega
    have hright : (strip s (screenOf w h) 2).inner.right =
        (strip s (screenOf w h) 2).x + ((strip s (screenOf w h) 2).width - 1) := by
      rw [Area.right, hx]
      simp only [Area.inner] at hwidth ⊢
      omega
    rw [hx, hy, hright]
    rfl
  panels := ⟨_, _, _, _, panels_around_search now s _, rfl, rfl, bottom_search_le now s _⟩
  within := (Area.within_inner _).trans
    (within_screen (stacked_strip s _ (by omega : 2 < 6)) hwidth hheight)

namespace Setup

theorem stacked_strip (screen : Area) {i : Nat} (hi : i < 7) :
    (screen.stacked extents)[i]? = some (strip screen i) :=
  Area.getElem?_stacked_getD hi screen

theorem box_within (screen : Area) : (box screen).Within (strip screen 3) := by
  have hlength : 1 < ((strip screen 3).sideBySide 100 [15, 70, 15]).length := by
    rw [Area.length_sideBySide]
    decide
  rw [box, List.getElem?_eq_getElem hlength, Option.getD_some]
  exact Area.within_of_sideBySide (by decide) (by decide) (List.getElem_mem hlength)

theorem boxLine_within (screen : Area) {i : Nat} (hi : i < 2) :
    (boxLine screen i).Within (box screen).inner := by
  have hline : ((box screen).inner.stacked [.exactly 1, .exactly 1])[i]? =
      some (boxLine screen i) := Area.getElem?_stacked_getD hi (box screen).inner
  exact Area.within_of_stacked hline

theorem line_within (screen : Area) : (boxLine screen 1).Within (strip screen 3) :=
  (boxLine_within screen (by omega)).trans
    ((Area.within_inner _).trans (box_within screen))

theorem right_line_le (w h : Nat) : (boxLine (screenOf w h) 1).right ≤ w := by
  have hright := ((line_within (screenOf w h)).trans
    (Area.within_of_stacked (stacked_strip (screenOf w h) (by omega : 3 < 7)))).right
  exact Nat.le_trans hright (Nat.le_of_eq (Nat.zero_add w))

theorem types (s : Session) (screen : Area) :
    Types (draw s screen) s.address (boxLine screen 1) screen where
  cursor := rfl
  panels := by
    refine ⟨(panels s screen).take 4, _, [centered (strip screen 5) (.ofInk .darkGray) (help s)],
      "http://...", rfl, rfl, rfl, ?_⟩
    intro q hq
    rw [List.mem_singleton.mp hq]
    exact Nat.le_trans (line_within screen).bottom (Area.bottom_le_of_stacked
      (stacked_strip screen (by omega)) (stacked_strip screen (by omega)) (by omega : 3 < 5))
  within := (line_within screen).trans (Area.within_of_stacked (stacked_strip screen (by omega)))

end Setup

/-- The line that is typed: the address while a session asks for one, else the search line. -/
def typedLine (s : Session) : LineInput :=
  if s.needsSetup then s.address else s.search

/-- The place of that line on the screen. -/
def typedArea (s : Session) (screen : Area) : Area :=
  if s.needsSetup then Setup.boxLine screen 1 else (FeedPage.strip s screen 2).inner

theorem types_draw (now : Nat) (s : Session) (w h : Nat)
    (htyped : s.needsSetup = true ∨ s.page = .feed)
    (hwidth : 0 < (typedArea s (screenOf w h)).width)
    (hheight : 0 < (typedArea s (screenOf w h)).height) :
    Types (draw now s (screenOf w h)) (typedLine s) (typedArea s (screenOf w h))
      (screenOf w h) := by
  by_cases hsetup : s.needsSetup = true
  · rw [draw, typedLine, typedArea, if_pos hsetup, if_pos hsetup, if_pos hsetup]
    exact Setup.types s _
  · have hpage := htyped.resolve_left hsetup
    rw [typedArea, if_neg hsetup] at hwidth hheight
    rw [draw, typedLine, typedArea, if_neg hsetup, if_neg hsetup, if_neg hsetup, hpage]
    exact FeedPage.types now s w h hwidth hheight

/-- Where a line is typed and has a cell, on a screen whose columns can be counted: the cursor is not
shown just when it comes to stand behind the columns that are shown, and is still behind them if its
column is too large and goes around. As long as it stands in front of their end it is shown in the
row of the line, as many columns from the edge as are between what is scrolled out of sight and the
cursor. If it faces a cluster that fits there, its cell is the one in which that cluster is drawn. -/
theorem cursor_shown_iff (now : Nat) (s : Session) (w h : Nat)
    (htyped : s.needsSetup = true ∨ s.page = .feed) (hw : w < columnLimit)
    (hwidth : 0 < (typedArea s (screenOf w h)).width)
    (hheight : 0 < (typedArea s (screenOf w h)).height)
    (htext : Text.width (typedLine s).text < columnLimit) :
    let l := typedLine s
    let a := typedArea s (screenOf w h)
    let column := a.x + (l.cursorColumn - l.scroll a.width)
    ((paint now s w h).2 = none ↔
      l.OutOfSight a.width ∧ (column < columnLimit ∨ a.right ≤ column - columnLimit)) ∧
    (¬ l.OutOfSight a.width →
      (paint now s w h).2 = some (column, a.y) ∧ a.Contains column a.y ∧
      ∀ cluster, l.Faces a.width cluster → '\n' ∉ l.chars → 0 < clusterWidth cluster →
        column + clusterWidth cluster ≤ a.right →
        ∃ c, (paint now s w h).1.get? column a.y = some c ∧ c.symbol = cluster) := by
  intro l a column
  have ht := types_draw now s w h htyped hwidth hheight
  have hcursor : (paint now s w h).2 = (draw now s (screenOf w h)).cursor := rfl
  refine ⟨ht.cursor_eq_none_iff hw htext hwidth, fun hshown => ?_⟩
  obtain ⟨hcolumn, hmod⟩ : column < a.right ∧ column % columnLimit = column :=
    ht.column_eq hw hwidth hshown
  have hcell : (draw now s (screenOf w h)).cursor =
      if column % columnLimit < a.right then some (column % columnLimit, a.y) else none :=
    ht.cursor_eq
  refine ⟨?_, ⟨?_, ?_, ?_, ?_⟩, fun cluster hfaces hline hpos hroom => ?_⟩
  · rw [hcursor, hcell, hmod, if_pos hcolumn]
  · exact Nat.le_add_right _ _
  · exact hcolumn
  · exact Nat.le_refl _
  · exact Nat.lt_add_of_pos_right hheight
  · rw [Area.right, Nat.add_assoc] at hroom
    exact ht.symbol_eq hheight htext hfaces hline hpos (Nat.le_of_add_le_add_left hroom)

/-- A session with a search line. -/
def searching (before after : List Char) : Session :=
  { Session.build .initial (some .initial) with search := ⟨before.reverse, after⟩ }

/-- Characters of two columns in a line of odd width: the cursor is in the last column. -/
theorem cursor_shown_in_last_column :
    let s := searching (List.replicate 20 '語') ['a', 'b']
    let a := typedArea s (screenOf 39 15)
    a.right = 37 ∧ (paint 0 s 39 15).2 = some (36, a.y) ∧
      ∃ c, (paint 0 s 39 15).1.get? 36 a.y = some c ∧ c.symbol = ['a'] := by
  intro s a
  have hsight : ¬ (typedLine s).OutOfSight a.width := by
    rw [LineInput.outOfSight_iff (by decide +kernel)]
    decide +kernel
  have hcolumn : a.x + ((typedLine s).cursorColumn - (typedLine s).scroll a.width) = 36 := by
    decide +kernel
  have hchars : ∀ d ∈ (typedLine s).chars, d = '語' ∨ d = 'a' ∨ d = 'b' := by
    intro d hd
    have hline : (typedLine s).chars = List.replicate 20 '語' ++ ['a', 'b'] := by decide +kernel
    rw [hline] at hd
    simpa using hd
  have halone : ∀ d ∈ (typedLine s).chars, Text.Alone d ∧ clusterWidth [d] ≤ a.width := by
    intro d hd
    rcases hchars d hd with rfl | rfl | rfl <;> decide +kernel
  have hfaces : (typedLine s).Faces a.width ['a'] :=
    LineInput.faces_of_alone rfl (fun d hd => (halone d hd).1) (fun d hd => (halone d hd).2)
      (by decide +kernel)
  obtain ⟨hcursor, -, hcell⟩ := (cursor_shown_iff 0 s 39 15 (.inr rfl) (by decide)
    (by decide +kernel) (by decide +kernel) (by decide +kernel)).2 hsight
  rw [hcolumn] at hcursor hcell
  exact ⟨by decide +kernel, hcursor,
    hcell ['a'] hfaces (by decide +kernel) (by decide +kernel) (by decide +kernel)⟩

/-- The text fills the line, and the cursor is behind it. -/
theorem cursor_missing_behind_text :
    let s := searching "abcdefghijklmnopqrstuvwxyz0123456789".toList []
    let a := typedArea s (screenOf 40 15)
    s.needsSetup = false ∧ s.page = .feed ∧ a.width = 36 ∧ a.height = 1 ∧
      Text.width (typedLine s).text = 36 ∧ (paint 0 s 40 15).2 = none := by
  decide +kernel

end FeedExplorer.View
