import FeedExplorer.Proofs.View.Listed

/-!
# The list of blocks

Main statement: the page of a feed shows a run of the blocks that the search leaves, exactly one of
its rows stands out, and the block of that row is the one that is opened.
-/

namespace FeedExplorer

open Screen (Area Drawing Panel)

namespace Screen.Area

/-- Areas next to each other have all rows of the area. -/
theorem rows_of_mem_sideBySide {a s : Area} {total : Nat} {weights : List Nat}
    (h : s ∈ a.sideBySide total weights) : s.y = a.y ∧ s.bottom = a.bottom := by
  obtain ⟨strip, _, rfl⟩ := List.mem_map.mp h
  exact ⟨rfl, rfl⟩

end Screen.Area

namespace View.FeedPage

variable (now : Nat) (s : Session) (w h : Nat)

theorem stacked_strip (screen : Area) {i : Nat} (hi : i < 6) :
    ((screen.padded 1).stacked (extents s))[i]? = some (strip s screen i) :=
  Area.getElem?_stacked_getD hi screen

/-- The panels above the list. -/
def above (screen : Area) : List Panel :=
  { area := strip s screen 0, style := .plain, frame := none
    content := .lines [header s] .left 0 } ::
  totals s (strip s screen 1) ++
  [searchPanel s (strip s screen 2)] ++
  (s.feedState.lastError.map (failurePanel (strip s screen 3))).toList

theorem panels_eq (screen : Area) :
    panels now s screen =
      above s screen ++ listPanel now s (strip s screen 4) :: [helpPanel s (strip s screen 5)] := by
  simp [panels, above]

theorem bottom_totalPanel (area : Area) (i : Nat) (label : String) (color : Screen.Color)
    (n : Nat) : (totalPanel area i label color n).area.bottom = area.bottom := by
  change (((area.sideBySide 3 [1, 1, 1])[i]?).getD area).bottom = area.bottom
  cases hbox : (area.sideBySide 3 [1, 1, 1])[i]? with
  | none => rfl
  | some box => exact (Area.rows_of_mem_sideBySide (List.mem_of_getElem? hbox)).2

@[simp] theorem area_helpPanel (area : Area) : (helpPanel s area).area = area := by
  rw [helpPanel]
  split <;> rfl

/-- Every strip has the columns that the margins leave. -/
theorem columns_strip {i : Nat} (hi : i < 6) :
    (strip s (screenOf w h) i).x = 1 ∧ (strip s (screenOf w h) i).width = w - 2 :=
  Area.width_of_mem_stacked (List.mem_of_getElem? (stacked_strip s (screenOf w h) hi))

/-- The strips lie one below the other. -/
theorem bottom_strip_le (screen : Area) {i j : Nat} (hij : i < j) (hj : j < 6) :
    (strip s screen i).bottom ≤ (strip s screen j).y :=
  Area.bottom_le_of_stacked (stacked_strip s _ (Nat.lt_trans hij hj)) (stacked_strip s _ hj) hij

theorem apart_list (screen : Area) :
    ∀ q ∈ above s screen ++ [helpPanel s (strip s screen 5)],
      Drawing.Apart q (listPanel now s (strip s screen 4)) := by
  have hbefore {i : Nat} (hi : i < 4) : (strip s screen i).bottom ≤ (strip s screen 4).y :=
    bottom_strip_le s screen hi (by omega)
  have htotal (i : Nat) (label : String) (color : Screen.Color) (n : Nat) :
      (totalPanel (strip s screen 1) i label color n).area.bottom ≤ (strip s screen 4).y := by
    rw [bottom_totalPanel]
    exact hbefore (by omega)
  intro q hq
  simp only [above, totals, List.mem_append, List.mem_cons, List.not_mem_nil, or_false,
    Option.mem_toList, Option.map_eq_some_iff] at hq
  rcases hq with (((rfl | rfl | rfl | rfl) | rfl) | ⟨text, -, rfl⟩) | rfl
  · exact .inl (hbefore (by omega : 0 < 4))
  · exact .inl (htotal _ _ _ _)
  · exact .inl (htotal _ _ _ _)
  · exact .inl (htotal _ _ _ _)
  · exact .inl (hbefore (by omega : 2 < 4))
  · exact .inl (hbefore (by omega : 3 < 4))
  · refine .inr ?_
    rw [area_helpPanel]
    exact bottom_strip_le s screen (by omega : 4 < 5) (by omega)

variable {s w h}

theorem paint_eq (hfeed : s.feed.isSome = true) (hpage : s.page = .feed) :
    (View.paint now s w h).1 = (draw now s (screenOf w h)).paint w h := by
  rw [View.paint, View.draw, Session.needsSetup, Option.isNone_eq_false_iff.mpr hfeed,
    if_neg Bool.false_ne_true, hpage]

theorem shows_blocks (hfeed : s.feed.isSome = true) (hpage : s.page = .feed)
    (hvisible : s.visible ≠ []) (hwidth : 0 < (strip s (screenOf w h) 4).inner.width)
    (hheight : 0 < (strip s (screenOf w h) 4).inner.height) :
    (View.paint now s w h).1.Shows (strip s (screenOf w h) 4).inner
      (blockRows now (listHeight (strip s (screenOf w h) 4)) s.highlighted s.visible) := by
  rw [paint_eq now hfeed hpage]
  have hempty : s.visible.isEmpty = false := List.isEmpty_eq_false_iff.mpr hvisible
  have hstyle : (listPanel now s (strip s (screenOf w h) 4)).style = .plain := by
    rw [listPanel, hempty, if_neg Bool.false_ne_true]
  have hcontent : (listPanel now s (strip s (screenOf w h) 4)).content =
      .rows (blockRows now (listHeight (strip s (screenOf w h) 4)) s.highlighted s.visible) := by
    rw [listPanel, hempty]
    rfl
  have hwithin := within_screen (stacked_strip s (screenOf w h) (by omega : 4 < 6))
    hwidth hheight
  apply Drawing.shows_paint (panels_eq now s (screenOf w h)) (apart_list now s (screenOf w h)) rfl
    hstyle hcontent hwithin hwidth hheight
  rw [blockRows, List.length_map, window, List.length_take]
  exact Nat.min_le_left _ _

theorem not_lit_empty (hfeed : s.feed.isSome = true) (hpage : s.page = .feed)
    (hvisible : s.visible = []) (hwidth : 0 < (strip s (screenOf w h) 4).inner.width) {j : Nat}
    (hj : j < (strip s (screenOf w h) 4).inner.height) :
    ¬ (View.paint now s w h).1.Lit (strip s (screenOf w h) 4).inner j := by
  rw [paint_eq now hfeed hpage]
  have hempty : s.visible.isEmpty = true := List.isEmpty_iff.mpr hvisible
  have hstyle : (listPanel now s (strip s (screenOf w h) 4)).style.ground = none := by
    rw [listPanel, hempty, if_pos rfl]
    rfl
  have hcontent : (listPanel now s (strip s (screenOf w h) 4)).content =
      .lines (Screen.linesOf (emptyText s)) .center 0 := by
    rw [listPanel, hempty]
    rfl
  have hwithin := within_screen (stacked_strip s (screenOf w h) (by omega : 4 < 6))
    hwidth (by omega)
  exact Drawing.not_lit_paint (panels_eq now s (screenOf w h)) (apart_list now s (screenOf w h)) rfl
    hstyle hcontent ground_linesOf hwithin hwidth hj

/-- On the page of a feed, on every screen that leaves the list a cell: the list shows a run of the
blocks that the search leaves, as long as it has rows for them; exactly one of its rows stands out,
and opening opens the block of that row. When the search leaves no block no row stands out, and
opening changes nothing. -/
theorem opens_row_that_stands_out (now : Nat) (s : Session) (w h : Nat)
    (hfeed : s.feed.isSome = true) (hpage : s.page = .feed) :
    let a := (strip s (screenOf w h) 4).inner
    let g := (View.paint now s w h).1
    0 < a.width → 0 < a.height →
      (s.visible ≠ [] → ∃ start row b,
        g.Shows a (((s.visible.drop start).take a.height).mapIdx fun j b =>
            { style := rowStyle (j == row), line := blockLine now b }) ∧
          row < a.height ∧ (∀ j < a.height, g.Lit a j ↔ j = row) ∧
          s.visible[start + row]? = some b ∧
          s.openSelected = ({ s with page := .block b 0 }, true)) ∧
      (s.visible = [] → (∀ j < a.height, ¬ g.Lit a j) ∧ s.openSelected = (s, false)) := by
  intro a g hwidth hheight
  refine ⟨fun hvisible => ?_, fun hvisible => ⟨fun j hj => ?_, ?_⟩⟩
  · have hlength := List.length_pos_iff.mpr hvisible
    have hlt : s.highlighted < s.visible.length := by
      rw [Session.highlighted]
      omega
    have hshows : g.Shows a ([] ++
        rowsAround a.height s.highlighted s.visible fun _ b => blockLine now b) :=
      shows_blocks now hfeed hpage hvisible hwidth hheight
    have hwithin : a.Within g.area :=
      within_painted (d := View.draw now s (screenOf w h)) (stacked_strip s _ (by omega : 4 < 6))
        hwidth hheight
    obtain ⟨start, row, hrun, hselected, hrow, hlit⟩ := exists_run hshows hwithin hwidth hheight
      (fun r hr => absurd hr List.not_mem_nil) (fun _ _ => ground_blockLine) hlt
    have hget : s.visible[s.highlighted]? = some s.visible[s.highlighted] :=
      List.getElem?_eq_getElem hlt
    refine ⟨start, row, s.visible[s.highlighted], hrun, hrow, fun j hj => ?_, ?_, ?_⟩
    · rw [hlit j hj, List.length_nil, Nat.zero_add]
    · rw [hselected, hget]
    · rw [Session.openSelected, hget]
  · exact not_lit_empty now hfeed hpage hvisible hwidth hj
  · rw [Session.openSelected, hvisible]
    rfl

/-- The selection is behind the end of a list that is longer than its place on the screen. -/
theorem opens_row_that_stands_out_of_short :
    let shown : Chain.Snapshot :=
      ⟨["a", "b", "c"].map fun hash => { (default : Chain.Block) with hash }, none, none⟩
    let m : Feed.Machine :=
      Feed.Machine.run .initial [.request, .begin 0, .answer 0 (.ok shown)]
    let s : Session := { Session.build .initial (some m) with selected := 7 }
    let a := (strip s (screenOf 40 14) 4).inner
    let g := (View.paint 0 s 40 14).1
    a.height = 2 ∧ s.visible.length = 3 ∧ ∃ row < 2, (∀ j < 2, g.Lit a j ↔ j = row) ∧
      ∃ b, b.hash = "c" ∧ s.openSelected = ({ s with page := .block b 0 }, true) := by
  intro shown m s a g
  have hvisible : s.visible = shown.blocks := by decide +kernel
  have hheight : a.height = 2 := by decide +kernel
  obtain ⟨start, row, b, -, hrow, hlit, -, hopened⟩ :=
    (opens_row_that_stands_out 0 s 40 14 rfl rfl (by decide +kernel) (by decide +kernel)).1
      (hvisible ▸ List.cons_ne_nil _ _)
  have hpage : s.openSelected.1.page = .block { (default : Chain.Block) with hash := "c" } 0 := by
    decide +kernel
  rw [hopened] at hpage
  refine ⟨hheight, congrArg List.length hvisible, row, hheight ▸ hrow, fun j hj => ?_, b, ?_,
    hopened⟩
  · exact hlit j (hheight ▸ hj)
  · rw [(Session.Page.block.inj hpage).1]

end View.FeedPage

end FeedExplorer
