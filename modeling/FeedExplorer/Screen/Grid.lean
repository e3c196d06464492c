import FeedExplorer.Screen.Area
import FeedExplorer.Screen.Line

/-!
# Grids

The cells of a screen. A glyph of double width stands in one cell, and the cell behind it is hidden.
Whatever is painted outside of the grid is lost.
-/

namespace FeedExplorer.Screen

structure Cell where
  symbol : List Char
  ink : Color
  ground : Color
  bold : Bool
  deriving DecidableEq, Repr

namespace Cell

def blank : Cell :=
  { symbol := [' '], ink := .reset, ground := .reset, bold := false }

/-- The cell with a style put over its own. -/
def restyle (s : Style) (c : Cell) : Cell :=
  { c with
    ink := s.ink.getD c.ink, ground := s.ground.getD c.ground, bold := c.bold || s.bold }

def write (symbol : List Char) (s : Style) (c : Cell) : Cell :=
  { c with symbol }.restyle s

/-- Puts a glyph without width on top of the symbol. -/
def append (symbol : List Char) (s : Style) (c : Cell) : Cell :=
  { c with symbol := c.symbol ++ symbol }.restyle s

@[simp] theorem restyle_plain (c : Cell) : c.restyle .plain = c := by
  simp [restyle, Style.plain]

end Cell

/-- Cells row by row. -/
structure Grid where
  width : Nat
  height : Nat
  cells : Array Cell
  deriving Repr

namespace Grid

def blank (width height : Nat) : Grid :=
  { width, height, cells := Array.replicate (width * height) .blank }

def area (g : Grid) : Area :=
  { x := 0, y := 0, width := g.width, height := g.height }

/-- The cell in column `x` and row `y`. -/
def get? (g : Grid) (x y : Nat) : Option Cell :=
  if x < g.width then g.cells[y * g.width + x]? else none

/-- Changes one cell. -/
def change (g : Grid) (x y : Nat) (f : Cell → Cell) : Grid :=
  if x < g.width then { g with cells := g.cells.modify (y * g.width + x) f } else g

/-- Two cells of a grid of width `w` stand at one index only if they are the same. -/
theorem index_inj {w x y x' y' : Nat} (hx : x < w) (hx' : x' < w) :
    y * w + x = y' * w + x' ↔ x = x' ∧ y = y' := by
  constructor
  · intro h
    have hmod : x = x' := by
      have := congrArg (· % w) h
      simpa [Nat.mod_eq_of_lt hx, Nat.mod_eq_of_lt hx', Nat.add_mod, Nat.mul_mod_left] using this
    subst hmod
    have hmul : y * w = y' * w := by omega
    exact ⟨rfl, Nat.eq_of_mul_eq_mul_right (by omega) hmul⟩
  · rintro ⟨rfl, rfl⟩
    rfl

@[simp] theorem width_change (g : Grid) (x y : Nat) (f : Cell → Cell) :
    (g.change x y f).width = g.width := by
  unfold change
  split <;> rfl

@[simp] theorem height_change (g : Grid) (x y : Nat) (f : Cell → Cell) :
    (g.change x y f).height = g.height := by
  unfold change
  split <;> rfl

/-- Changing a cell leaves the others as they are. -/
theorem get?_change (g : Grid) (x y x' y' : Nat) (f : Cell → Cell) :
    (g.change x y f).get? x' y' =
      if x = x' ∧ y = y' then (g.get? x' y').map f else g.get? x' y' := by
  by_cases hx : x < g.width
  · by_cases hx' : x' < g.width
    · simp [change, get?, hx, hx', Array.getElem?_modify, index_inj hx hx']
    · simp [change, get?, hx, hx']
  · by_cases h : x = x' ∧ y = y'
    · obtain ⟨rfl, rfl⟩ := h
      simp [change, get?, hx]
    · simp [change, hx, h]

/-- Changes the cells of an area. -/
def changeAll (g : Grid) (a : Area) (f : Cell → Cell) : Grid :=
  let a := a.inter g.area
  (List.range a.height).foldl (fun g i =>
    (List.range a.width).foldl (fun g j => g.change (a.x + j) (a.y + i) f) g) g

def restyle (g : Grid) (a : Area) (s : Style) : Grid :=
  if s = .plain then g else g.changeAll a (Cell.restyle s)

/-- Puts glyphs side by side on row `y` from column `x` on; those without width are left out. -/
def putGlyphs (y : Nat) : Grid → Nat → List Glyph → Grid
  | g, _, [] => g
  | g, x, t :: ts =>
    if t.width = 0 then putGlyphs y g x ts
    else putGlyphs y (g.change x y (Cell.write t.symbol t.style)) (x + t.width) ts

/-- Puts the glyphs of a span on the row of an area, as far as they fit. Those without width go on
top of the one before, and the hidden cells are blanked. -/
def putSpan (a : Area) : Grid → Nat → Bool → List Glyph → Grid
  | g, _, _, [] => g
  | g, x, isFirst, t :: ts =>
    if a.right < x + t.width then g
    else
      let g :=
        if isFirst then g.change x a.y (Cell.write t.symbol t.style)
        else if x = a.x then g.change x a.y (Cell.append t.symbol t.style)
        else if t.width = 0 then g.change (x - 1) a.y (Cell.append t.symbol t.style)
        else g.change x a.y (Cell.write t.symbol t.style)
      let hidden := { a with x := x + 1, width := t.width - 1, height := 1 }
      putSpan a (g.changeAll hidden fun _ => .blank) (x + t.width) false ts

/-- Puts a line on the first row of an area, as far as it fits. -/
def putLine : Grid → Area → Line → Grid
  | g, _, [] => g
  | g, a, s :: ss =>
    if s.width = 0 then putLine g a ss
    else if a.isEmpty then g
    else putLine (putSpan a g a.x true s.glyphs) (a.behind s.width) ss

/-- The text of a row from column `x` on, without the hidden cells. -/
def textFrom (g : Grid) (y : Nat) : Nat → Nat → List Char
  | 0, _ => []
  | fuel + 1, x =>
    match g.get? x y with
    | none => []
    | some c => c.symbol ++ textFrom g y fuel (x + max 1 (Text.widthOf c.symbol))

/-- The text of a row without the blanks at its end. -/
def rowText (g : Grid) (y : Nat) : String :=
  String.ofList ((g.textFrom y g.width 0).reverse.dropWhile (· == ' ')).reverse

/-- The texts of all rows. -/
def text (g : Grid) : List String :=
  (List.range g.height).map g.rowText

end Grid

end FeedExplorer.Screen
