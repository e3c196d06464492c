import FeedExplorer.Proofs.View.Typing

/-!
# Sums of coordinates

The pages drawn with coordinates of sixteen bits, where a sum that needs more of them stops the
drawing. Main statement: every page comes out as it is drawn with numbers of any size, except that
the place of the cursor in a typed line can need more bits, which takes a line whose beginning has
far more columns than its characters one by one.
-/

namespace FeedExplorer.View

open Chain (Block)
open Screen (Area Drawing Extent)
open Session (LineInput)
open Text (charColumns)

/-! ## Sixteen bits -/

/-- A number as a coordinate. -/
def narrow? (n : Nat) : Option Nat :=
  if n < columnLimit then some n else none

def add? (a b : Nat) : Option Nat :=
  narrow? (a + b)

def mul? (a b : Nat) : Option Nat :=
  narrow? (a * b)

/-- There are no coordinates below zero. -/
def sub? (a b : Nat) : Option Nat :=
  if b ≤ a then some (a - b) else none

theorem narrow?_of_lt {n : Nat} (h : n < columnLimit) : narrow? n = some n :=
  if_pos h

theorem add?_of_lt {a b : Nat} (h : a + b < columnLimit) : add? a b = some (a + b) :=
  if_pos h

/-- A number that is narrowed and then added. -/
theorem narrow?_bind_add? (a n : Nat) :
    (narrow? n).bind (add? a) = if a + n < columnLimit then some (a + n) else none := by
  by_cases hn : n < columnLimit
  · rw [narrow?_of_lt hn, Option.bind_some]
    rfl
  · rw [narrow?, if_neg hn, if_neg (by omega)]
    rfl

/-! ## Pages -/

/-- What a margin leaves, its corner and the margins of both sides being coordinates. -/
def padded? (a : Area) (n : Nat) : Option Area := do
  let x ← add? a.x n
  let y ← add? a.y n
  let margins ← mul? n 2
  return { x, y, width := a.width - margins, height := a.height - margins }

/-- The cell of a cursor that is `offset` columns behind `left`, if that is before `stop`. -/
def cellBefore (stop column row : Nat) : Option (Nat × Nat) :=
  if column < stop then some (column, row) else none

/-- The box takes seven tenths of the width, and one half of the rest is on each side. -/
def Setup.cursor? (s : Session) (screen : Area) : Option (Option (Nat × Nat)) := do
  let rest ← sub? 100 70
  let strip := strip screen 3
  let box := ((strip.sideBySide 100 [rest / 2, 70, rest / 2])[1]?).getD strip
  let line := ((box.inner.stacked [.exactly 1, .exactly 1])[1]?).getD box.inner
  let column ← (narrow? (cursorOffset s.address line.width)).bind (add? line.x)
  let stop ← add? line.x line.width
  return cellBefore stop column line.y

def FeedPage.cursor? (s : Session) (area : Area) : Option (Option (Nat × Nat)) := do
  let left ← add? area.x 1
  let column ← (narrow? (cursorOffset s.search (searchWidth area))).bind (add? left)
  let row ← add? area.y 1
  let stop ← add? area.x (area.width - 1)
  return cellBefore stop column row

def Setup.draw? (s : Session) (screen : Area) : Option Drawing := do
  let cursor ← cursor? s screen
  return { panels := panels s screen, cursor }

def FeedPage.draw? (now : Nat) (s : Session) (screen : Area) : Option Drawing := do
  let page ← padded? screen 1
  let cursor ← cursor? s (((page.stacked (extents s))[2]?).getD screen)
  return { panels := panels now s screen, cursor }

/-- Ten rows of facts and a help line are taken off the height. -/
def BlockPage.extents? (height : Nat) : Option (List Extent) := do
  let above ← add? 10 1
  let list := min (max (height - above) 6) (max (height / 2) 6)
  let below ← add? list 1
  return [.exactly (height - below), .exactly list, .exactly 1]

def BlockPage.draw? (now : Nat) (b : Block) (selected : Nat) (screen : Area) : Option Drawing := do
  let page ← padded? screen 1
  let extents ← extents? page.height
  let strip := fun i => ((page.stacked extents)[i]?).getD page
  return {
    panels :=
      [ factsPanel now b (strip 0), listPanel b selected (strip 1),
        centered (strip 2) (.ofInk .darkGray) helpText ]
    cursor := none }

/-- A session drawn with coordinates. -/
def draw? (now : Nat) (s : Session) (screen : Area) : Option Drawing :=
  if s.needsSetup then Setup.draw? s screen
  else
    match s.page with
    | .feed => FeedPage.draw? now s screen
    | .block b i => BlockPage.draw? now b i screen

/-! ## What comes out -/

section Pages

variable (now : Nat) (s : Session) {w h : Nat}

theorem padded?_screen (w h : Nat) :
    padded? (screenOf w h) 1 = some ((screenOf w h).padded 1) := rfl

theorem BlockPage.draw?_eq (b : Block) (selected : Nat) (hh : h < columnLimit) :
    draw? now b selected (screenOf w h) = some (draw now b selected (screenOf w h)) := by
  have hpage : ((screenOf w h).padded 1).height < columnLimit :=
    Nat.lt_of_le_of_lt (Nat.sub_le h 2) hh
  have hlist : listHeight ((screenOf w h).padded 1).height + 1 < columnLimit := by
    have hlimit : columnLimit = 65536 := rfl
    rw [listHeight]
    omega
  have hextents : extents? ((screenOf w h).padded 1).height =
      some (extents ((screenOf w h).padded 1).height) := by
    change (add? (listHeight _) 1).bind _ = _
    rw [add?_of_lt hlist]
    rfl
  rw [draw?, padded?_screen, Option.bind_eq_bind, Option.bind_some, hextents]
  rfl

/-- If the column of the cursor is a coordinate, it is its own remainder, and so is its distance from
the edge. -/
theorem checked_cell_eq (l : LineInput) (left row width stop : Nat) :
    (((narrow? (cursorOffset l width)).bind (add? left)).bind fun column =>
        some (cellBefore stop column row)) =
      if left + cursorOffset l width < columnLimit then some (cursorCell? l left row width stop)
      else none := by
  rw [narrow?_bind_add?]
  split
  · next hlt =>
    have hoffset : cursorOffset l width < columnLimit := by omega
    rw [Option.bind_some, cursorCell?, Nat.mod_eq_of_lt hoffset, Nat.mod_eq_of_lt hlt]
    rfl
  · rfl

theorem Setup.cursor?_eq (hw : w < columnLimit) :
    let line := boxLine (screenOf w h) 1
    cursor? s (screenOf w h) =
      if line.x + cursorOffset s.address line.width < columnLimit then
        some (cursor s (screenOf w h))
      else none := by
  intro line
  have hstop : add? line.x line.width = some line.right :=
    add?_of_lt (Nat.lt_of_le_of_lt (right_line_le w h) hw)
  change ((narrow? (cursorOffset s.address line.width)).bind (add? line.x)).bind
    (fun column => (add? line.x line.width).bind fun stop =>
      some (cellBefore stop column line.y)) = _
  simp only [hstop, Option.bind_some]
  exact checked_cell_eq s.address line.x line.y line.width line.right

theorem Setup.draw?_eq (hw : w < columnLimit) :
    let line := boxLine (screenOf w h) 1
    draw? s (screenOf w h) =
      if line.x + cursorOffset s.address line.width < columnLimit then
        some (draw s (screenOf w h))
      else none := by
  intro line
  rw [draw?, cursor?_eq s hw]
  split <;> rfl

theorem FeedPage.cursor?_eq (area : Area) (hx : area.x + area.width < columnLimit)
    (hleft : area.x + 1 < columnLimit) (hrow : area.y + 1 < columnLimit) :
    cursor? s area =
      if area.x + 1 + cursorOffset s.search (searchWidth area) < columnLimit then
        some (cursor s area)
      else none := by
  have hstop : area.x + (area.width - 1) < columnLimit := by omega
  change (add? area.x 1).bind (fun left =>
    ((narrow? (cursorOffset s.search (searchWidth area))).bind (add? left)).bind fun column =>
      (add? area.y 1).bind fun row => (add? area.x (area.width - 1)).bind fun stop =>
        some (cellBefore stop column row)) = _
  simp only [add?_of_lt hleft, add?_of_lt hrow, add?_of_lt hstop, Option.bind_some]
  exact checked_cell_eq s.search (area.x + 1) (area.y + 1) (searchWidth area)
    (area.x + (area.width - 1))

theorem FeedPage.draw?_eq (hw : w < columnLimit) (hh : h < columnLimit) :
    let area := strip s (screenOf w h) 2
    draw? now s (screenOf w h) =
      if area.x + 1 + cursorOffset s.search area.inner.width < columnLimit then
        some (draw now s (screenOf w h))
      else none := by
  intro area
  have hlimit : columnLimit = 65536 := rfl
  obtain ⟨hx, hwidth⟩ : area.x = 1 ∧ area.width = w - 2 := columns_strip s w h (by omega : 2 < 6)
  have hbottom : area.y + area.height ≤ 1 + (h - 2) :=
    (Area.within_of_stacked (stacked_strip s (screenOf w h) (by omega : 2 < 6))).bottom
  have hcursor := cursor?_eq s area (by omega) (by omega) (by omega)
  change (cursor? s area).bind _ =
    if area.x + 1 + cursorOffset s.search (searchWidth area) < columnLimit then _ else _
  rw [hcursor]
  split <;> rfl

/-- The column of the screen at which the typed line begins. -/
def typedColumn (s : Session) (screen : Area) : Nat :=
  if s.needsSetup then (Setup.boxLine screen 1).x else (FeedPage.strip s screen 2).x + 1

theorem typedColumn_add_width_lt (s : Session) (hw : w < columnLimit) :
    typedColumn s (screenOf w h) + (typedArea s (screenOf w h)).width < columnLimit := by
  rw [typedColumn, typedArea]
  split
  · exact Nat.lt_of_le_of_lt (Setup.right_line_le w h) hw
  · have hlimit : columnLimit = 65536 := rfl
    obtain ⟨hx, hwidth⟩ := FeedPage.columns_strip s w h (by omega : 2 < 6)
    rw [Area.inner]
    dsimp only
    omega

/-- A page with a typed line comes out if the column of its cursor is a coordinate. -/
theorem draw?_of_typed (hw : w < columnLimit) (hh : h < columnLimit)
    (htyped : s.needsSetup = true ∨ s.page = .feed) :
    draw? now s (screenOf w h) =
      if typedColumn s (screenOf w h) +
          cursorOffset (typedLine s) (typedArea s (screenOf w h)).width < columnLimit then
        some (draw now s (screenOf w h))
      else none := by
  by_cases hsetup : s.needsSetup = true
  · rw [draw?, draw, typedColumn, typedLine, typedArea, if_pos hsetup, if_pos hsetup, if_pos hsetup,
      if_pos hsetup, if_pos hsetup]
    exact Setup.draw?_eq s hw
  · rw [draw?, draw, typedColumn, typedLine, typedArea, if_neg hsetup, if_neg hsetup, if_neg hsetup,
      if_neg hsetup, if_neg hsetup, htyped.resolve_left hsetup]
    exact FeedPage.draw?_eq now s hw hh

/-- A page without a typed line always comes out. -/
theorem draw?_of_block (hh : h < columnLimit) (hblock : ¬ (s.needsSetup = true ∨ s.page = .feed)) :
    draw? now s (screenOf w h) = some (draw now s (screenOf w h)) := by
  obtain ⟨hsetup, hpage⟩ := not_or.mp hblock
  rw [draw?, draw, if_neg hsetup, if_neg hsetup]
  cases hb : s.page with
  | feed => exact absurd hb hpage
  | block b i => exact BlockPage.draw?_eq now b i hh

end Pages

/-! ## The place of the cursor -/

/-- Only a line with too few columns to be scrolled far enough has its cursor too far away. -/
theorem columnLimit_le_iff {l : LineInput} {left width : Nat} (hleft : left + width < columnLimit) :
    columnLimit ≤ left + cursorOffset l width ↔
      width + charColumns l.chars < l.cursorColumn ∧
        columnLimit ≤ left + (l.cursorColumn - charColumns l.chars) := by
  by_cases hfar : width + charColumns l.chars < l.cursorColumn
  · rw [cursorOffset, LineInput.scroll_of_lt hfar, and_iff_right hfar]
  · have hoffset : cursorOffset l width ≤ width :=
      LineInput.cursor_sub_scroll_le_iff.mpr (Nat.le_of_not_lt hfar)
    refine iff_of_false (fun hle => ?_) fun hle => hfar hle.1
    omega

/-- A line whose characters are clusters is scrolled far enough, so that its page comes out. -/
theorem draw?_of_alone (now : Nat) (s : Session) {w h : Nat} (hw : w < columnLimit)
    (hh : h < columnLimit) (halone : ∀ c ∈ (typedLine s).chars, Text.Alone c) :
    draw? now s (screenOf w h) = some (draw now s (screenOf w h)) := by
  by_cases htyped : s.needsSetup = true ∨ s.page = .feed
  · have hcolumn : (typedLine s).cursorColumn ≤ charColumns (typedLine s).chars := by
      rw [LineInput.cursorColumn,
        Text.widthOf_of_alone fun c hc => halone c (List.mem_append_left _ hc), LineInput.chars,
        Text.charColumns_append]
      exact Nat.le_add_right _ _
    have hoffset : cursorOffset (typedLine s) (typedArea s (screenOf w h)).width ≤
        (typedArea s (screenOf w h)).width :=
      LineInput.cursor_sub_scroll_le_iff.mpr (Nat.le_add_left_of_le hcolumn)
    have hroom := typedColumn_add_width_lt s (h := h) hw
    rw [draw?_of_typed now s hw hh htyped, if_pos (by omega)]
  · exact draw?_of_block now s hh htyped

/-- Every page comes out as it is drawn with numbers of any size, on every screen whose columns and
rows are coordinates, unless the cursor of a typed line cannot be scrolled into sight and is too far
away. The cursor is no farther from the edge than the line is wide just when there are no more
columns before it than are shown and the characters of the line have one by one. -/
theorem comes_out_iff (now : Nat) (s : Session) (w h : Nat) (hw : w < columnLimit)
    (hh : h < columnLimit) :
    let l := typedLine s
    let width := (typedArea s (screenOf w h)).width
    (cursorOffset l width ≤ width ↔ l.cursorColumn ≤ width + charColumns l.chars) ∧
    (∀ d, draw? now s (screenOf w h) = some d → d = draw now s (screenOf w h)) ∧
    (draw? now s (screenOf w h) = none ↔
      (s.needsSetup = true ∨ s.page = .feed) ∧ width + charColumns l.chars < l.cursorColumn ∧
        columnLimit ≤
          typedColumn s (screenOf w h) + (l.cursorColumn - charColumns l.chars)) := by
  intro l width
  refine ⟨LineInput.cursor_sub_scroll_le_iff, ?_⟩
  by_cases htyped : s.needsSetup = true ∨ s.page = .feed
  · rw [draw?_of_typed now s hw hh htyped, and_iff_right htyped,
      ← columnLimit_le_iff (typedColumn_add_width_lt s hw)]
    split
    · next hlt => exact ⟨by rintro _ ⟨⟩; rfl, iff_of_false nofun (Nat.not_le_of_lt hlt)⟩
    · next hge => exact ⟨nofun, iff_of_true rfl (Nat.le_of_not_lt hge)⟩
  · rw [draw?_of_block now s hh htyped]
    exact ⟨by rintro _ ⟨⟩; rfl, iff_of_false nofun fun h => htyped h.1⟩

theorem comes_out_of_double_width :
    80 < columnLimit ∧ 24 < columnLimit ∧
      draw? 0 (searching (List.replicate 80 '語') ['a']) (screenOf 80 24) =
        some (draw 0 (searching (List.replicate 80 '語') ['a']) (screenOf 80 24)) := by
  have hw : 80 < columnLimit := by decide
  have hh : 24 < columnLimit := by decide
  refine ⟨hw, hh, ?_⟩
  obtain ⟨-, hsome, hnone⟩ :=
    comes_out_iff 0 (searching (List.replicate 80 '語') ['a']) 80 24 hw hh
  have hcolumns : (typedLine (searching (List.replicate 80 '語') ['a'])).cursorColumn ≤
      charColumns (typedLine (searching (List.replicate 80 '語') ['a'])).chars := by
    decide +kernel
  cases hdraw : draw? 0 (searching (List.replicate 80 '語') ['a']) (screenOf 80 24) with
  | some d => rw [hsome d hdraw]
  | none =>
    obtain ⟨-, hfar, -⟩ := hnone.mp hdraw
    omega

/-- A session that asks for an address, with the cursor at the end of what is typed. -/
def addressed (typed : List Char) : Session :=
  { Session.build .initial none with address := ⟨typed.reverse, []⟩ }

/-- With control characters only, the cursor is as many columns from the edge as there are. -/
theorem cursorOffset_of_control {l : LineInput} {width : Nat} (hafter : l.after = [])
    (h : ∀ c ∈ l.before, Text.ClusterClass.ofChar c = .control ∧ Text.glyphWidth? c = none)
    (hlong : width < l.before.length) : cursorOffset l width = l.before.length := by
  obtain ⟨hcolumn, hcolumns⟩ := Text.columns_of_control fun c hc => h c (List.mem_reverse.mp hc)
  rw [List.length_reverse] at hcolumn
  rw [← List.append_nil l.before.reverse, ← hafter] at hcolumns
  have hscroll : l.scroll width = 0 := by
    rw [LineInput.scroll_of_lt, LineInput.chars, hcolumns]
    rw [LineInput.chars, hcolumns, LineInput.cursorColumn, hcolumn]
    exact hlong
  rw [cursorOffset, hscroll, LineInput.cursorColumn, hcolumn, Nat.sub_zero]

theorem cursorOffset_addressed (n : Nat) {width : Nat} (hlong : width < n) :
    cursorOffset (addressed (List.replicate n '\u0080')).address width = n := by
  rw [cursorOffset_of_control rfl]
  · simp [addressed]
  · intro c hc
    obtain rfl : c = '\u0080' := List.eq_of_mem_replicate (List.mem_reverse.mp hc)
    decide +kernel
  · simpa [addressed] using hlong

/-- After enough control characters the cursor is far behind the box, which has 54 columns, but its
distance does not fit into sixteen bits, and what is left of it lies in the box. -/
theorem stopped_by_controls :
    let s := addressed (List.replicate 65541 '\u0080')
    (typedArea s (screenOf 80 24)).width = 54 ∧
      cursorOffset (typedLine s) (typedArea s (screenOf 80 24)).width = 65541 ∧
      columnLimit < 65541 ∧ draw? 0 s (screenOf 80 24) = none ∧
      (paint 0 s 80 24).2 = some (18, 13) := by
  intro s
  have hsetup : s.needsSetup = true := rfl
  have hoffset : cursorOffset s.address 54 = 65541 := cursorOffset_addressed 65541 (by decide)
  -- nothing else matters of this long line
  clear_value s
  have hbox : Setup.boxLine (screenOf 80 24) 1 = ⟨13, 13, 54, 1⟩ := by decide +kernel
  have harea : typedArea s (screenOf 80 24) = ⟨13, 13, 54, 1⟩ := by
    rw [typedArea, if_pos hsetup, hbox]
  have hcolumn : typedColumn s (screenOf 80 24) = 13 := by rw [typedColumn, if_pos hsetup, hbox]
  have hline : typedLine s = s.address := by rw [typedLine, if_pos hsetup]
  refine ⟨by rw [harea], by rw [harea, hline, hoffset], by decide, ?_, ?_⟩
  · rw [draw?_of_typed 0 s (by decide) (by decide) (.inl hsetup), harea, hcolumn, hline, hoffset]
    rfl
  · have hcursor : (paint 0 s 80 24).2 = Setup.cursor s (screenOf 80 24) := by
      change (draw 0 s (screenOf 80 24)).cursor = _
      rw [draw, if_pos hsetup]
      rfl
    rw [hcursor, Setup.cursor, hbox]
    change cursorCell? s.address 13 13 54 67 = _
    rw [cursorCell?, hoffset]
    rfl

end FeedExplorer.View
