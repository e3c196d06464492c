import FeedExplorer.Proofs.View.Listed
import FeedExplorer.View.Basic

/-!
# The transactions of a block

Main statement: the page of a block shows a run of its transactions below their header, and exactly
one row stands out, the one of the selected transaction.
-/

namespace FeedExplorer.View.BlockPage

open Chain (Block)
open Screen (Area Drawing Grid Row)

/-- The names of the columns. -/
def headerRow : Row :=
  { style := .plain, line := transactionHeader }

theorem stacked_strip (screen : Area) {i : Nat} (hi : i < 3) :
    ((screen.padded 1).stacked (extents (screen.padded 1).height))[i]? = some (strip screen i) :=
  Area.getElem?_stacked_getD hi (screen.padded 1)

variable (now : Nat) {s : Session} {b : Block} {i w h : Nat}

theorem paint_eq (hfeed : s.feed.isSome = true) (hpage : s.page = .block b i) :
    (View.paint now s w h).1 = (draw now b i (screenOf w h)).paint w h := by
  rw [View.paint, View.draw, Session.needsSetup, Option.isNone_eq_false_iff.mpr hfeed,
    if_neg Bool.false_ne_true, hpage]

theorem panels_eq (screen : Area) :
    (draw now b i screen).panels =
      [factsPanel now b (strip screen 0)] ++ listPanel b i (strip screen 1) ::
        [centered (strip screen 2) (.ofInk .darkGray) helpText] := rfl

theorem apart_list (screen : Area) :
    ∀ q ∈ [factsPanel now b (strip screen 0)] ++
        [centered (strip screen 2) (.ofInk .darkGray) helpText],
      Drawing.Apart q (listPanel b i (strip screen 1)) := by
  intro q hq
  rcases List.mem_pair.mp hq with rfl | rfl
  · exact .inl (Area.bottom_le_of_stacked (stacked_strip screen (by omega))
      (stacked_strip screen (by omega)) (by omega : 0 < 1))
  · exact .inr (Area.bottom_le_of_stacked (stacked_strip screen (by omega))
      (stacked_strip screen (by omega)) (by omega : 1 < 2))

theorem shows_transactions (hfeed : s.feed.isSome = true) (hpage : s.page = .block b i)
    (hne : b.transactions ≠ []) (hwidth : 0 < (strip (screenOf w h) 1).inner.width)
    (hheight : 1 < (strip (screenOf w h) 1).inner.height) :
    (View.paint now s w h).1.Shows (strip (screenOf w h) 1).inner
      (transactionRows (rowCount (strip (screenOf w h) 1)) i b.transactions) := by
  rw [paint_eq now hfeed hpage]
  have hempty : b.transactions.isEmpty = false := List.isEmpty_eq_false_iff.mpr hne
  have hstyle : (listPanel b i (strip (screenOf w h) 1)).style = .plain := by
    rw [listPanel, hempty, if_neg Bool.false_ne_true]
  have hcontent : (listPanel b i (strip (screenOf w h) 1)).content =
      .rows (transactionRows (rowCount (strip (screenOf w h) 1)) i b.transactions) := by
    rw [listPanel, hempty]
    rfl
  have hpos := Nat.zero_lt_of_lt hheight
  have hwithin := within_screen (stacked_strip (screenOf w h) (by omega : 1 < 3)) hwidth hpos
  have hrows : (transactionRows (rowCount (strip (screenOf w h) 1)) i b.transactions).length ≤
      (strip (screenOf w h) 1).inner.height := by
    rw [transactionRows, List.length_cons, List.length_map, window, List.length_take, rowCount]
    simp only [Area.inner] at hheight ⊢
    omega
  exact Drawing.shows_paint (panels_eq now _) (apart_list now _) rfl hstyle hcontent hwithin hwidth
    hpos hrows

theorem ground_headerRow :
    ∀ r ∈ [headerRow], r.style.ground = none ∧ ∀ s ∈ r.line, s.style.ground = none := by
  intro r hr
  rw [List.mem_singleton.mp hr]
  exact ⟨rfl, ground_transactionHeader⟩

theorem within_list (hfeed : s.feed.isSome = true) (hpage : s.page = .block b i)
    (hwidth : 0 < (strip (screenOf w h) 1).inner.width)
    (hheight : 0 < (strip (screenOf w h) 1).inner.height) :
    (strip (screenOf w h) 1).inner.Within (View.paint now s w h).1.area := by
  rw [paint_eq now hfeed hpage]
  exact within_painted (stacked_strip (screenOf w h) (by omega : 1 < 3)) hwidth hheight

/-- The header and the transactions around the selected one. -/
theorem shows_around (hfeed : s.feed.isSome = true) (hpage : s.page = .block b i)
    (hne : b.transactions ≠ []) (hwidth : 0 < (strip (screenOf w h) 1).inner.width)
    (hheight : 1 < (strip (screenOf w h) 1).inner.height) :
    (View.paint now s w h).1.Shows (strip (screenOf w h) 1).inner
      ([headerRow] ++ rowsAround ((strip (screenOf w h) 1).inner.height - 1) i b.transactions
        transactionLine) := by
  have hcount : rowCount (strip (screenOf w h) 1) =
      (strip (screenOf w h) 1).inner.height - 1 := by
    simp only [rowCount, Area.inner]
    omega
  rw [← hcount]
  exact shows_transactions now hfeed hpage hne hwidth hheight

/-- On every screen that leaves the list a row below its header: it shows a run of the transactions,
as long as there are rows for them, and exactly the row of the selected one stands out. -/
theorem exists_run_transactions (hfeed : s.feed.isSome = true) (hpage : s.page = .block b i)
    (hselected : i < b.transactions.length)
    (hwidth : 0 < (strip (screenOf w h) 1).inner.width)
    (hheight : 1 < (strip (screenOf w h) 1).inner.height) :
    ∃ start row,
      (View.paint now s w h).1.Shows (strip (screenOf w h) 1).inner
        (headerRow :: ((b.transactions.drop start).take
          ((strip (screenOf w h) 1).inner.height - 1)).mapIdx fun j t =>
            { style := rowStyle (j == row), line := transactionLine (start + j) t }) ∧
      start + row = i ∧ row + 1 < (strip (screenOf w h) 1).inner.height ∧
      ∀ j < (strip (screenOf w h) 1).inner.height,
        (View.paint now s w h).1.Lit (strip (screenOf w h) 1).inner j ↔ j = row + 1 := by
  have hne : b.transactions ≠ [] := List.ne_nil_of_length_pos (by omega)
  have hwithin := within_list now hfeed hpage hwidth (Nat.zero_lt_of_lt hheight)
  obtain ⟨start, row, hrun, hstart, hrow, hlit⟩ :=
    exists_run (shows_around now hfeed hpage hne hwidth hheight) hwithin hwidth
      (Nat.sub_pos_of_lt hheight) ground_headerRow (fun _ _ => ground_transactionLine) hselected
  refine ⟨start, row, hrun, hstart, by omega, fun j hj => ?_⟩
  rw [hlit j hj, List.length_singleton, Nat.add_comm]

end FeedExplorer.View.BlockPage
