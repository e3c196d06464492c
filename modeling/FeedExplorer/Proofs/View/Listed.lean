import FeedExplorer.Proofs.Screen.Listing
import FeedExplorer.View.Basic

/-!
# Lists of a page

The part of a list that a page shows. Main statement: it is a run of the list, and the selected item
is in it as soon as there is a row for it.
-/

namespace FeedExplorer.View

open Chain (Block Transaction)
open Screen (Area Extent Grid Line Row)

/-! ## Rows -/

section Window

variable {α : Type} (height selected : Nat) (items : List α)

/-- The row of the selected item. -/
def windowRow (height selected : Nat) : Nat :=
  min selected (height / 2)

theorem window_eq :
    window height selected items = ((items.drop (selected - height / 2)).take height).mapIdx
      fun j item => (item, selected - height / 2 + j) := by
  apply List.ext_getElem?
  intro j
  simp [window, List.getElem?_take, List.getElem?_drop, List.getElem?_mapIdx]
  split <;> simp [Nat.add_comm]

/-- The rows of the items that are shown, the selected one in a style of its own. -/
def rowsAround (line : Nat → α → Line) : List Row :=
  (window height selected items).map fun p =>
    { style := rowStyle (p.2 == selected), line := line p.2 p.1 }

theorem rowsAround_eq (line : Nat → α → Line) :
    rowsAround height selected items line =
      ((items.drop (selected - height / 2)).take height).mapIdx fun j item =>
        { style := rowStyle (j == windowRow height selected)
          line := line (selected - height / 2 + j) item } := by
  rw [rowsAround, window_eq]
  apply List.ext_getElem?
  intro j
  have hrow : (selected - height / 2 + j == selected) = (j == windowRow height selected) := by
    rw [Bool.eq_iff_iff, beq_iff_eq, beq_iff_eq, windowRow]
    omega
  simp [List.getElem?_mapIdx, Function.comp_def, hrow]

end Window

/-- A row in the style of selected ones stands out against the others. -/
theorem rowStyle_ground {selected : Bool} :
    (rowStyle selected).ground ≠ none ↔ selected = true := by
  cases selected <;> simp [rowStyle, Screen.Style.plain]

theorem rowStyle_ne_reset (selected : Bool) : (rowStyle selected).ground ≠ some .reset := by
  cases selected <;> simp [rowStyle, Screen.Style.plain]

theorem ground_blockLine {now : Nat} {b : Block} :
    ∀ s ∈ blockLine now b, s.style.ground = none := by
  simp [blockLine, separator, inked, Screen.Style.ofInk]

theorem ground_transactionLine {i : Nat} {t : Transaction} :
    ∀ s ∈ transactionLine i t, s.style.ground = none := by
  simp [transactionLine, separator, inked, Screen.Style.ofInk]

theorem ground_transactionHeader : ∀ s ∈ transactionHeader, s.style.ground = none := by
  simp [transactionHeader, separator, inked, Screen.Style.ofInk, Screen.Style.plain]

theorem ground_linesOf {text : String} :
    ∀ l ∈ Screen.linesOf text, ∀ s ∈ l, s.style.ground = none := by
  intro l hl s hs
  rw [Screen.linesOf] at hl
  split_ifs at hl
  · rw [List.mem_singleton.mp hl] at hs
    cases hs
  · obtain ⟨line, -, rfl⟩ := List.mem_map.mp hl
    obtain ⟨piece, -, rfl⟩ := List.mem_map.mp hs
    rfl

/-- Of the rows of a list, below some others, the selected one stands out. -/
theorem lit_iff_selected {α : Type} {g : Grid} {a : Area} {head : List Row} {items : List α}
    {row : Nat} {line : Nat → α → Line}
    (h : g.Shows a (head ++ items.mapIdx fun j item =>
      { style := rowStyle (j == row), line := line j item }))
    (hwithin : a.Within g.area) (hwidth : 0 < a.width)
    (hhead : ∀ r ∈ head, r.style.ground = none ∧ ∀ s ∈ r.line, s.style.ground = none)
    (hline : ∀ j item, ∀ s ∈ line j item, s.style.ground = none) (hrow : row < items.length)
    {j : Nat} (hj : j < a.height) : g.Lit a j ↔ j = head.length + row := by
  have hplain : ∀ r ∈ head ++ items.mapIdx fun j item =>
      ({ style := rowStyle (j == row), line := line j item } : Row),
      r.style.ground ≠ some .reset ∧ ∀ s ∈ r.line, s.style.ground = none := by
    intro r hr
    rcases List.mem_append.mp hr with hr | hr
    · exact ⟨by simp [(hhead r hr).1], (hhead r hr).2⟩
    · obtain ⟨i, hi, rfl⟩ := List.mem_mapIdx.mp hr
      exact ⟨rowStyle_ne_reset _, hline _ _⟩
  rw [h.lit_iff hwithin hwidth hplain hj]
  by_cases hlt : j < head.length
  · rw [List.getElem?_append_left hlt]
    refine iff_of_false ?_ (by omega)
    rintro ⟨r, hr, hground⟩
    exact hground (hhead r (List.mem_of_getElem? hr)).1
  · rw [List.getElem?_append_right (by omega), List.getElem?_mapIdx]
    constructor
    · rintro ⟨r, hr, hground⟩
      obtain ⟨item, -, rfl⟩ := Option.map_eq_some_iff.mp hr
      have hselected := beq_iff_eq.mp (rowStyle_ground.mp hground)
      omega
    · rintro rfl
      rw [Nat.add_sub_cancel_left, List.getElem?_eq_getElem hrow]
      exact ⟨_, rfl, rowStyle_ground.mpr (beq_self_eq_true row)⟩

/-- A list around its selected item, below some other rows: it is a run of the items, and exactly
one of its rows stands out, the one of the selected item. -/
theorem exists_run {α : Type} {g : Grid} {a : Area} {head : List Row} {items : List α}
    {height selected : Nat} {line : Nat → α → Line}
    (h : g.Shows a (head ++ rowsAround height selected items line))
    (hwithin : a.Within g.area) (hwidth : 0 < a.width) (hheight : 0 < height)
    (hhead : ∀ r ∈ head, r.style.ground = none ∧ ∀ s ∈ r.line, s.style.ground = none)
    (hline : ∀ i item, ∀ s ∈ line i item, s.style.ground = none)
    (hselected : selected < items.length) :
    ∃ start row,
      g.Shows a (head ++ ((items.drop start).take height).mapIdx fun j item =>
        { style := rowStyle (j == row), line := line (start + j) item }) ∧
      start + row = selected ∧ row < height ∧
      ∀ j < a.height, g.Lit a j ↔ j = head.length + row := by
  rw [rowsAround_eq] at h
  refine ⟨selected - height / 2, windowRow height selected, h, ?_, ?_, fun j hj => ?_⟩
  · rw [windowRow]
    omega
  · rw [windowRow]
    omega
  · apply lit_iff_selected h hwithin hwidth hhead (fun _ item => hline _ item) _ hj
    rw [List.length_take, List.length_drop, windowRow]
    omega

/-! ## Strips of a page -/

/-- A strip of a page with room inside a frame is on the screen. -/
theorem within_screen {w h i : Nat} {es : List Extent} {a : Area}
    (ha : (((screenOf w h).padded 1).stacked es)[i]? = some a) (hwidth : 0 < a.inner.width)
    (hheight : 0 < a.inner.height) : a.Within (Grid.blank w h).area := by
  obtain ⟨hleft, hright, htop, hbottom⟩ := Area.within_of_stacked ha
  simp only [Area.inner, Area.right, Area.bottom, Area.padded, screenOf] at *
  constructor
  all_goals
    simp only [Area.right, Area.bottom, Grid.area, Grid.blank]
    omega

theorem width_inner_of_stacked {w h i : Nat} {es : List Extent} {a : Area}
    (ha : (((screenOf w h).padded 1).stacked es)[i]? = some a) : a.inner.width = w - 4 := by
  have hwidth := (Area.width_of_mem_stacked (List.mem_of_getElem? ha)).2
  simp only [Area.inner, Area.padded, screenOf] at hwidth ⊢
  omega

theorem within_painted {w h i : Nat} {es : List Extent} {a : Area} {d : Screen.Drawing}
    (ha : (((screenOf w h).padded 1).stacked es)[i]? = some a) (hwidth : 0 < a.inner.width)
    (hheight : 0 < a.inner.height) : a.inner.Within (d.paint w h).area := by
  rw [Screen.Drawing.area_paint]
  exact a.within_inner.trans (within_screen ha hwidth hheight)

end FeedExplorer.View
