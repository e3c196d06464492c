import FeedExplorer.Screen.Fold
import FeedExplorer.Screen.Grid

/-!
# Panels

What a screen is made of: areas with a frame, or without, around a text or a list of rows, and how
they are painted.
-/

namespace FeedExplorer.Screen

/-- A border with a title on its upper side. -/
structure Frame where
  border : Style
  title : Line
  titleStyle : Style
  deriving Repr

inductive Alignment where
  | left
  | center
  deriving DecidableEq, Repr

/-- A row of a list: its style goes under those of its spans. -/
structure Row where
  style : Style
  line : Line
  deriving DecidableEq, Repr

inductive Content where
  /-- Lines cut at the edges; those to the left begin `skip` columns late. -/
  | lines (lines : List Line) (alignment : Alignment) (skip : Nat)
  /-- Lines folded at blanks. -/
  | folded (lines : List Line)
  | rows (rows : List Row)
  | nothing
  deriving Repr

structure Panel where
  area : Area
  style : Style
  frame : Option Frame
  content : Content
  deriving Repr

namespace Grid

/-- Paints the four sides of a border, then the corners. -/
def putBorder (g : Grid) (a : Area) (s : Style) : Grid :=
  let bottom := a.bottom - 1
  let right := a.right - 1
  let g := g.changeAll { a with width := 1 } (Cell.write ['│'] s)
  let g := g.changeAll { a with height := 1 } (Cell.write ['─'] s)
  let g := g.changeAll { a with x := right, width := 1 } (Cell.write ['│'] s)
  let g := g.changeAll { a with y := bottom, height := 1 } (Cell.write ['─'] s)
  let g := g.change right bottom (Cell.write ['┘'] s)
  let g := g.change right a.y (Cell.write ['┐'] s)
  let g := g.change a.x bottom (Cell.write ['└'] s)
  g.change a.x a.y (Cell.write ['┌'] s)

/-- Paints a frame around an area. The title stands between the upper corners. -/
def putFrame (g : Grid) (a : Area) (f : Frame) : Grid :=
  let a := a.inter g.area
  if a.isEmpty then g
  else
    let g := g.putBorder a f.border
    let room := { a with x := a.x + 1, width := a.width - 2, height := 1 }
    if room.isEmpty then g
    else
      let here := { room with width := min f.title.width room.width }
      (g.restyle here f.titleStyle).putLine here f.title

/-- The column at which a line of some width starts in an area. -/
def lineStart (a : Area) (width : Nat) : Alignment → Nat
  | .left => a.x
  | .center => a.x + (a.width / 2 - width / 2)

/-- Paints lines that fit, one to a row. -/
def putLines (g : Grid) (a : Area) (alignment : Alignment) (lines : List (List Glyph)) : Grid :=
  ((lines.take a.height).zipIdx).foldl (fun g (line, i) =>
    g.putGlyphs (a.y + i) (lineStart a (columns line) alignment) line) g

/-- Skipping is for lines at the left only. -/
def skipFor (skip : Nat) : Alignment → Nat
  | .left => skip
  | .center => 0

def putRows (g : Grid) (a : Area) (rows : List Row) : Grid :=
  ((rows.take a.height).zipIdx).foldl (fun g (row, i) =>
    (g.restyle (a.row i) row.style).putLine (a.row i) row.line) g

def putContent (g : Grid) (a : Area) : Content → Grid
  | .lines lines alignment skip =>
    g.putLines a alignment (lines.map fun l => cut a.width (skipFor skip alignment) l.glyphs)
  | .folded lines => g.putLines a .left (lines.flatMap fun l => fold a.width l.glyphs)
  | .rows rows => g.putRows a rows
  | .nothing => g

end Grid

namespace Panel

/-- The part of a panel that its frame leaves to the content. -/
def inside (p : Panel) : Area :=
  if p.frame.isSome then p.area.inner else p.area

def paint (p : Panel) (g : Grid) : Grid :=
  let g := g.restyle p.area p.style
  let g := match p.frame with
    | some f => g.putFrame p.area f
    | none => g
  let inside := p.inside.inter g.area
  if inside.isEmpty then g else g.putContent inside p.content

end Panel

/-- Panels to be painted one after another, and where the cursor stands, if it is shown. -/
structure Drawing where
  panels : List Panel
  cursor : Option (Nat × Nat)
  deriving Repr

/-- The grid of a drawing. -/
def Drawing.paint (d : Drawing) (width height : Nat) : Grid :=
  d.panels.foldl (fun g p => p.paint g) (.blank width height)

end FeedExplorer.Screen
