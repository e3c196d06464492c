import FeedExplorer.Proofs.View.BlockPage
import FeedExplorer.Proofs.View.FeedPage

/-!
# Lists that fit

A list with a row for each of its items. Main statement: what is shown of it begins above the
selected item by half of the rows that there are, so that it is shown whole just when the selected
item is not below the middle; otherwise its first items are left out, and as many rows stay empty.
-/

namespace FeedExplorer.View

open Chain (Block)
open Screen (Area Grid Line Row)

section Rows

variable {α : Type} {g : Grid} {a : Area} {head : List Row} {items : List α}
  {height selected start : Nat} {line : Nat → α → Line}

/-- The rows of a list from one of its items on, the selected one in a style of its own. -/
def rowsFrom (start selected : Nat) (items : List α) (line : Nat → α → Line) : List Row :=
  (items.drop start).mapIdx fun j item =>
    { style := rowStyle (start + j == selected), line := line (start + j) item }

/-- The row of the selected item tells where the rows begin. -/
theorem rowsFrom_eq (hstart : start ≤ selected) :
    rowsFrom start selected items line = (items.drop start).mapIdx fun j item =>
      { style := rowStyle (j == selected - start), line := line (start + j) item } := by
  have hrow (j : Nat) : (start + j == selected) = (j == selected - start) := by
    rw [Bool.eq_iff_iff, beq_iff_eq, beq_iff_eq]
    omega
  simp only [rowsFrom, hrow]

theorem rowsAround_of_fits (hfits : items.length ≤ height) :
    rowsAround height selected items line =
      rowsFrom (selected - height / 2) selected items line := by
  have htake (start : Nat) : (items.drop start).take height = items.drop start := by
    apply List.take_of_length_le
    rw [List.length_drop]
    omega
  have hrow : windowRow height selected = selected - (selected - height / 2) := by
    rw [windowRow]
    omega
  rw [rowsAround_eq, htake, hrow, rowsFrom_eq (Nat.sub_le _ _)]

/-- Below some other rows, a list that fits is shown from one of its items on, and from no other. -/
theorem shows_rowsFrom_iff (h : g.Shows a (head ++ rowsAround height selected items line))
    (hwithin : a.Within g.area) (hwidth : 0 < a.width)
    (hhead : ∀ r ∈ head, r.style.ground = none ∧ ∀ s ∈ r.line, s.style.ground = none)
    (hline : ∀ i item, ∀ s ∈ line i item, s.style.ground = none)
    (hselected : selected < items.length) (hfits : items.length ≤ height)
    (hroom : head.length + height ≤ a.height) (hstart : start ≤ selected) :
    g.Shows a (head ++ rowsFrom start selected items line) ↔ start = selected - height / 2 := by
  have hlit {start j : Nat} (hstart : start ≤ selected) (hj : j < a.height)
      (h : g.Shows a (head ++ rowsFrom start selected items line)) :
      g.Lit a j ↔ j = head.length + (selected - start) := by
    rw [rowsFrom_eq hstart] at h
    apply lit_iff_selected h hwithin hwidth hhead (fun _ item => hline _ item) _ hj
    rw [List.length_drop]
    omega
  rw [rowsAround_of_fits hfits] at h
  constructor
  · -- one row stands out, and both beginnings say which
    intro hshows
    have hrow : head.length + (selected - start) < a.height := by omega
    have hboth := (hlit (Nat.sub_le _ _) hrow h).mp ((hlit hstart hrow hshows).mpr rfl)
    omega
  · rintro rfl
    exact h

end Rows

/-! ## The lists of both pages -/

theorem FeedPage.shows_rowsFrom_iff (now : Nat) {s : Session} {w h start : Nat}
    (hfeed : s.feed.isSome = true) (hpage : s.page = .feed) (hvisible : s.visible ≠ [])
    (hwidth : 0 < (strip s (screenOf w h) 4).inner.width)
    (hfits : s.visible.length ≤ (strip s (screenOf w h) 4).inner.height)
    (hstart : start ≤ s.highlighted) :
    (View.paint now s w h).1.Shows (strip s (screenOf w h) 4).inner
        (rowsFrom start s.highlighted s.visible fun _ b => blockLine now b) ↔
      start = s.highlighted - (strip s (screenOf w h) 4).inner.height / 2 := by
  have hlength := List.length_pos_iff.mpr hvisible
  have hheight : 0 < (strip s (screenOf w h) 4).inner.height := by omega
  have hlt : s.highlighted < s.visible.length := by
    rw [Session.highlighted]
    omega
  have hshows : (View.paint now s w h).1.Shows (strip s (screenOf w h) 4).inner
      ([] ++ rowsAround (strip s (screenOf w h) 4).inner.height s.highlighted s.visible
        fun _ b => blockLine now b) :=
    shows_blocks now hfeed hpage hvisible hwidth hheight
  have hwithin : (strip s (screenOf w h) 4).inner.Within (View.paint now s w h).1.area :=
    within_painted (d := View.draw now s (screenOf w h)) (stacked_strip s _ (by omega : 4 < 6))
      hwidth hheight
  exact View.shows_rowsFrom_iff hshows hwithin hwidth (fun r hr => absurd hr List.not_mem_nil)
    (fun _ _ => ground_blockLine) hlt hfits (by simp) hstart

theorem BlockPage.shows_rowsFrom_iff (now : Nat) {s : Session} {b : Block} {i w h start : Nat}
    (hfeed : s.feed.isSome = true) (hpage : s.page = .block b i)
    (hselected : i < b.transactions.length) (hwidth : 0 < (strip (screenOf w h) 1).inner.width)
    (hfits : b.transactions.length + 1 ≤ (strip (screenOf w h) 1).inner.height)
    (hstart : start ≤ i) :
    (View.paint now s w h).1.Shows (strip (screenOf w h) 1).inner
        (headerRow :: rowsFrom start i b.transactions transactionLine) ↔
      start = i - ((strip (screenOf w h) 1).inner.height - 1) / 2 := by
  have hne : b.transactions ≠ [] := List.ne_nil_of_length_pos (by omega)
  have hshows := shows_around now hfeed hpage hne hwidth (by omega)
  have hwithin := within_list now hfeed hpage hwidth (by omega)
  refine View.shows_rowsFrom_iff hshows hwithin hwidth ground_headerRow
    (fun _ _ => ground_transactionLine) hselected (by omega) ?_ hstart
  rw [List.length_singleton]
  omega

/-- A list with a row for each of its items, on a screen that leaves it a column: it is shown from
an item on that is above the selected one by half of the rows. So it is shown whole just when the
selected item is within the upper half. -/
theorem list_whole_iff (now : Nat) (s : Session) (w h : Nat) (hfeed : s.feed.isSome = true)
    (hw : 4 < w) :
    (s.page = .feed → s.visible ≠ [] →
      let a := (FeedPage.strip s (screenOf w h) 4).inner
      let shownFrom (start : Nat) : Prop := (paint now s w h).1.Shows a
        (rowsFrom start s.highlighted s.visible fun _ b => blockLine now b)
      s.visible.length ≤ a.height →
        shownFrom (s.highlighted - a.height / 2) ∧ (shownFrom 0 ↔ s.highlighted ≤ a.height / 2)) ∧
    (∀ b i, s.page = .block b i → i < b.transactions.length →
      let a := (BlockPage.strip (screenOf w h) 1).inner
      let shownFrom (start : Nat) : Prop := (paint now s w h).1.Shows a
        (BlockPage.headerRow :: rowsFrom start i b.transactions transactionLine)
      b.transactions.length + 1 ≤ a.height →
        shownFrom (i - (a.height - 1) / 2) ∧ (shownFrom 0 ↔ i ≤ (a.height - 1) / 2)) := by
  constructor
  · intro hpage hvisible a shownFrom hfits
    have hwidth : 0 < a.width := by
      rw [width_inner_of_stacked (FeedPage.stacked_strip s (screenOf w h) (by omega : 4 < 6))]
      omega
    have hiff {start : Nat} (hstart : start ≤ s.highlighted) :=
      FeedPage.shows_rowsFrom_iff now hfeed hpage hvisible hwidth hfits hstart
    exact ⟨(hiff (Nat.sub_le _ _)).mpr rfl,
      (hiff (Nat.zero_le _)).trans (eq_comm.trans Nat.sub_eq_zero_iff_le)⟩
  · intro b i hpage hselected a shownFrom hfits
    have hwidth : 0 < a.width := by
      rw [width_inner_of_stacked (BlockPage.stacked_strip (screenOf w h) (by omega : 1 < 3))]
      omega
    have hiff {start : Nat} (hstart : start ≤ i) :=
      BlockPage.shows_rowsFrom_iff now hfeed hpage hselected hwidth hfits hstart
    exact ⟨(hiff (Nat.sub_le _ _)).mpr rfl,
      (hiff (Nat.zero_le _)).trans (eq_comm.trans Nat.sub_eq_zero_iff_le)⟩

/-- A session on three blocks, the one at an index selected. -/
def onThreeBlocks (selected : Nat) : Session :=
  let shown : Chain.Snapshot :=
    ⟨["a", "b", "c"].map fun hash => { (default : Block) with hash }, none, none⟩
  let m := Feed.Machine.run .initial [.request, .begin 0, .answer 0 (.ok shown)]
  { Session.build .initial (some m) with selected }

theorem list_whole_of_three :
    let a := (FeedPage.strip (onThreeBlocks 1) (screenOf 40 15) 4).inner
    (onThreeBlocks 1).visible.length = a.height ∧
      (paint 0 (onThreeBlocks 1) 40 15).1.Shows a
        (rowsFrom 0 1 (onThreeBlocks 1).visible fun _ b => blockLine 0 b) := by
  intro a
  have hheight : (onThreeBlocks 1).visible.length = a.height := by decide +kernel
  have hvisible : (onThreeBlocks 1).visible ≠ [] := by decide +kernel
  have hhighlighted : (onThreeBlocks 1).highlighted = 1 := by decide +kernel
  have hwhole := (list_whole_iff 0 (onThreeBlocks 1) 40 15 rfl (by omega)).1 rfl hvisible
    (Nat.le_of_eq hheight)
  rw [hhighlighted] at hwhole
  exact ⟨hheight, hwhole.2.mpr (by decide +kernel)⟩

/-- There is a row for each of three blocks. With the last one selected the first one is left out,
and the last row is empty. -/
theorem first_of_three_left_out :
    let a := (FeedPage.strip (onThreeBlocks 2) (screenOf 40 15) 4).inner
    (onThreeBlocks 2).visible.length = a.height ∧
      ¬ (paint 0 (onThreeBlocks 2) 40 15).1.Shows a
        (rowsFrom 0 2 (onThreeBlocks 2).visible fun _ b => blockLine 0 b) ∧
      (paint 0 (onThreeBlocks 2) 40 15).1.Shows a
        (rowsFrom 1 2 (onThreeBlocks 2).visible fun _ b => blockLine 0 b) := by
  intro a
  have hheight : (onThreeBlocks 2).visible.length = a.height := by decide +kernel
  have hvisible : (onThreeBlocks 2).visible ≠ [] := by decide +kernel
  have hhighlighted : (onThreeBlocks 2).highlighted = 2 := by decide +kernel
  have hiff {start : Nat} (hstart : start ≤ 2) :=
    FeedPage.shows_rowsFrom_iff 0 (s := onThreeBlocks 2) (w := 40) (h := 15) rfl rfl hvisible
      (by decide +kernel) (Nat.le_of_eq hheight) (hhighlighted ▸ hstart)
  rw [hhighlighted] at hiff
  refine ⟨hheight, fun hwhole => ?_, (hiff (by omega)).mpr (by decide +kernel)⟩
  have hmiddle := (hiff (by omega)).mp hwhole
  revert hmiddle
  decide +kernel

end FeedExplorer.View
