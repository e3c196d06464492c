import FeedExplorer.Proofs.View.Typing

/-!
# The row of the cursor

On which screens the cell of the cursor lies outside. Main statement: its column is always one of
a screen that has any, and its row is one unless the screen has a single row or, on the feed page, no more than
two.
-/

namespace FeedExplorer

namespace Screen

open scoped Number

/-! ## What a strip gets at least -/

/-- A run takes nothing away. -/
theorem getD_addRun_le (r : Run) (cells : List Nat) (i : Nat) :
    cells.getD i 0 ≤ (addRun r cells).getD i 0 := by
  simp only [List.getD_eq_getElem?_getD, addRun, List.getElem?_mapIdx]
  cases cells[i]? with
  | none => exact Nat.le_refl _
  | some n =>
    simp only [Option.map_some, Option.getD_some]
    split <;> omega

theorem getD_serve_le (room : Nat) (cells : List Nat) (rs : List Run) (i : Nat) :
    cells.getD i 0 ≤ (serve room cells rs).cells.getD i 0 := by
  induction rs generalizing room cells with
  | nil => exact Nat.le_refl _
  | cons r rs ih =>
    rw [serve]
    split
    · exact Nat.le_trans (getD_addRun_le r cells i) (ih _ _)
    · exact Nat.le_refl _

/-- A strip has its whole cells. -/
theorem Shares.boundary_add_le (s : Shares) (i : Nat) :
    s.boundary i + s.cells.getD i 0 ≤ s.boundary (i + 1) := by
  have hcells : (s.cells.take (i + 1)).sum = (s.cells.take i).sum + s.cells.getD i 0 := by
    rw [List.take_add_one, List.sum_append, List.getD_eq_getElem?_getD]
    cases s.cells[i]? <;> rfl
  have hrest : s.rest * min (i - s.run.first) s.run.count ≤
      s.rest * min (i + 1 - s.run.first) s.run.count :=
    Nat.mul_le_mul_left _ (by omega)
  have hround := @Number.roundUp_mono _ _ s.run.count hrest
  simp only [boundary, hcells]
  omega

end Screen

namespace View

open Screen (Area Shares sharesOf serve served)
open Session (LineInput)

theorem cursorCell?_eq_some {l : LineInput} {left top width stop x y : Nat}
    (h : cursorCell? l left top width stop = some (x, y)) : x < stop ∧ y = top := by
  rw [cursorCell?] at h
  split at h
  · next hlt =>
    obtain ⟨rfl, rfl⟩ := Prod.mk.inj (Option.some.inj h)
    exact ⟨hlt, rfl⟩
  · cases h

/-! ## The feed page -/

namespace FeedPage

/-- The list has a row as soon as there is one. -/
theorem one_le_listCells (s : Session) {rows : Nat} (hrows : 0 < rows) :
    1 ≤ (sharesOf rows (extents s)).cells.getD 4 0 := by
  rw [sharesOf]
  split
  · simp [extents, Screen.grow]
    omega
  · have hkept : (Screen.keepMinimum rows (extents s)).getD 4 0 = min 3 rows := rfl
    have hserve := Screen.getD_serve_le
      (rows - (Screen.keepMinimum rows (extents s)).sum)
      (Screen.keepMinimum rows (extents s)) (served (extents s)) 4
    dsimp only
    omega

/-- The row below the upper edge of the search box is on the screen. -/
theorem row_lt_iff (s : Session) (w h : Nat) : (strip s (screenOf w h) 2).y + 1 < h ↔ 3 ≤ h := by
  have htop : (strip s (screenOf w h) 2).y = 1 + (sharesOf (h - 2) (extents s)).boundary 2 :=
    (Area.bottom_of_stacked (stacked_strip s (screenOf w h) (by omega : 2 < 6))).1
  rw [htop]
  constructor
  · intro hlt
    omega
  · intro hrows
    have hlist := one_le_listCells s (Nat.sub_pos_of_lt hrows)
    have hbefore := (sharesOf (h - 2) (extents s)).boundary_mono (by omega : 2 ≤ 4)
    have hbehind := (sharesOf (h - 2) (extents s)).boundary_add_le 4
    have hlast := Nat.le_trans ((sharesOf (h - 2) (extents s)).boundary_le (4 + 1))
      (Screen.sharesOf_le _ _)
    omega

theorem cursor_eq_some {s : Session} {w h x y : Nat} (hw : 0 < w)
    (hcursor : cursor s (strip s (screenOf w h) 2) = some (x, y)) :
    x < w ∧ (y < h ↔ 3 ≤ h) := by
  obtain ⟨hstop, rfl⟩ := cursorCell?_eq_some hcursor
  obtain ⟨hx, hwidth⟩ := columns_strip s w h (by omega : 2 < 6)
  exact ⟨by omega, row_lt_iff s w h⟩

end FeedPage

/-! ## The set-up page -/

namespace Setup

/-- All strips that want a row share the first ones; then come the boxes by what they lack. -/
theorem served_extents : served extents =
    ⟨0, 6, 1⟩ :: ⟨2, 3, 2⟩ :: (List.replicate 7 ⟨0, 1, 1⟩ ++ List.replicate 3 ⟨3, 1, 2⟩) := by
  have hruns : (List.range ((extents.map (·.least)).foldl max 0)).flatMap (Screen.runsOf extents) =
      [⟨0, 6, 1⟩, ⟨0, 1, 1⟩, ⟨2, 3, 2⟩, ⟨0, 1, 1⟩, ⟨3, 1, 2⟩, ⟨0, 1, 1⟩, ⟨3, 1, 2⟩, ⟨0, 1, 1⟩,
        ⟨3, 1, 2⟩, ⟨0, 1, 1⟩, ⟨0, 1, 1⟩, ⟨0, 1, 1⟩] := by decide
  rw [served]
  simp only [hruns]
  simp [List.mergeSort, List.MergeSort.Internal.splitInTwo]

/-- On a screen with room for all strips the box ends in row 16; else all are served in turn. -/
theorem boundary_four_lt {h : Nat} (hrows : 2 ≤ h) : (sharesOf h extents).boundary 4 < h := by
  by_cases hroom : 19 ≤ h
  · have hshares : sharesOf h extents =
        { cells := Screen.grow (h - 19) extents, run := ⟨0, 1, 0⟩, rest := 0 } := if_pos hroom
    have htop : (sharesOf h extents).boundary 4 = 16 := by
      rw [hshares]
      simp [Shares.boundary, extents, Screen.grow, Number.roundUp]
    omega
  · have hshares : sharesOf h extents = serve h (List.replicate 7 0) (served extents) :=
      if_neg hroom
    have hsmall : ∀ h < 19, 2 ≤ h →
        (serve h (List.replicate 7 0) (⟨0, 6, 1⟩ :: ⟨2, 3, 2⟩ ::
          (List.replicate 7 ⟨0, 1, 1⟩ ++ List.replicate 3 ⟨3, 1, 2⟩))).boundary 4 < h := by
      decide
    rw [hshares, served_extents]
    exact hsmall h (by omega) hrows

/-- A single row is given to the strips above the box, which then begins below it. -/
theorem boundary_three_eq : (sharesOf 1 extents).boundary 3 = 1 := by
  have hshares : sharesOf 1 extents = serve 1 (List.replicate 7 0) (served extents) := rfl
  rw [hshares, served_extents]
  decide

/-- The row of the typed line is on the screen. -/
theorem row_lt_iff (w h : Nat) : (boxLine (screenOf w h) 1).y < h ↔ 2 ≤ h := by
  have hstrip : (strip (screenOf w h) 3).y = 0 + (sharesOf h extents).boundary 3 ∧
      (strip (screenOf w h) 3).bottom = 0 + (sharesOf h extents).boundary 4 :=
    Area.bottom_of_stacked (stacked_strip (screenOf w h) (by omega : 3 < 7))
  have hline := line_within (screenOf w h)
  have hfirst : (sharesOf h extents).boundary 3 ≤ (boxLine (screenOf w h) 1).y := by
    have htop := hline.top
    omega
  have hlast : (boxLine (screenOf w h) 1).y ≤ (sharesOf h extents).boundary 4 := by
    have hbottom := hline.bottom
    rw [Area.bottom] at hbottom
    omega
  constructor
  · intro hlt
    by_contra hfew
    obtain rfl : h = 1 := by omega
    rw [boundary_three_eq] at hfirst
    omega
  · intro hrows
    exact Nat.lt_of_le_of_lt hlast (boundary_four_lt hrows)

theorem cursor_eq_some {s : Session} {w h x y : Nat}
    (hcursor : cursor s (screenOf w h) = some (x, y)) : x < w ∧ (y < h ↔ 2 ≤ h) := by
  obtain ⟨hstop, rfl⟩ := cursorCell?_eq_some hcursor
  exact ⟨Nat.lt_of_lt_of_le hstop (right_line_le w h), row_lt_iff w h⟩

end Setup

/-! ## All pages -/

/-- Wherever a cursor is shown on a screen that has columns, its column is one of them. Its row is one
of the screen just when that has two rows on the set-up page, and three on the feed page. -/
theorem cursor_on_screen_iff (now : Nat) (s : Session) (w h : Nat) (hw : 0 < w) {x y : Nat}
    (hcursor : (paint now s w h).2 = some (x, y)) :
    x < w ∧ (y < h ↔ (if s.needsSetup then 2 else 3) ≤ h) := by
  have hdraw : (draw now s (screenOf w h)).cursor = some (x, y) := hcursor
  rw [draw] at hdraw
  by_cases hsetup : s.needsSetup = true
  · rw [if_pos hsetup] at hdraw ⊢
    exact Setup.cursor_eq_some hdraw
  · rw [if_neg hsetup] at hdraw ⊢
    cases hpage : s.page with
    | feed =>
      rw [hpage] at hdraw
      exact FeedPage.cursor_eq_some hw hdraw
    | block b i =>
      rw [hpage] at hdraw
      cases hdraw

/-- With nothing typed the cursor is in the first column of the search box. -/
theorem cursor_of_empty_search (now h : Nat) {w : Nat} (hw : 5 ≤ w) :
    (paint now (searching [] []) w h).2 =
      some (2, (FeedPage.strip (searching [] []) (screenOf w h) 2).y + 1) := by
  obtain ⟨hleft, hcolumns⟩ := FeedPage.columns_strip (searching [] []) w h (by omega : 2 < 6)
  change FeedPage.cursor (searching [] []) _ = _
  have hoffset : cursorOffset (searching [] []).search (FeedPage.searchWidth
      (FeedPage.strip (searching [] []) (screenOf w h) 2)) = 0 := by
    simp [cursorOffset, searching, LineInput.cursorColumn]
  rw [FeedPage.cursor, cursorCell?, hoffset, hleft, hcolumns]
  exact if_pos (by change 2 < 1 + (w - 2 - 1); omega)

theorem cursor_on_screen_of_three_rows :
    0 < 40 ∧ (paint 0 (searching [] []) 40 3).2 = some (2, 2) ∧ 2 < 40 ∧ 2 < 3 := by
  have htop : 1 ≤ (FeedPage.strip (searching [] []) (screenOf 40 3) 2).y :=
    (Area.within_of_stacked
      (FeedPage.stacked_strip (searching [] []) (screenOf 40 3) (by omega : 2 < 6))).top
  have hrow := (FeedPage.row_lt_iff (searching [] []) 40 3).mpr (Nat.le_refl 3)
  have hcursor : (paint 0 (searching [] []) 40 3).2 = some (2, 2) := by
    rw [cursor_of_empty_search 0 3 (by omega)]
    congr 2
    omega
  obtain ⟨hcolumn, hiff⟩ := cursor_on_screen_iff 0 (searching [] []) 40 3 (by decide) hcursor
  exact ⟨by decide, hcursor, hcolumn, hiff.mpr (by decide)⟩

/-- On two rows the search box has none, and the cursor is in the row below the screen. -/
theorem cursor_below_two_rows : (paint 0 (searching [] []) 40 2).2 = some (2, 2) := by
  have hwithin := Area.within_of_stacked
    (FeedPage.stacked_strip (searching [] []) (screenOf 40 2) (by omega : 2 < 6))
  have htop : 1 ≤ (FeedPage.strip (searching [] []) (screenOf 40 2) 2).y := hwithin.top
  have hbottom : (FeedPage.strip (searching [] []) (screenOf 40 2) 2).bottom ≤ 1 :=
    hwithin.bottom
  rw [Area.bottom] at hbottom
  rw [cursor_of_empty_search 0 2 (by omega)]
  congr 2
  omega

end View

end FeedExplorer
