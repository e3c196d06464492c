import FeedExplorer.Number.Sum
import FeedExplorer.Screen.Line
import FeedExplorer.Text.Blank

/-!
# Fitting lines

Two ways to fit a line of glyphs into a width: cutting it off at the right edge after skipping
some columns at the left, and folding it at blanks into several lines.
-/

namespace FeedExplorer.Screen

open scoped Number

/-- The columns of some glyphs. -/
def columns (gs : List Glyph) : Nat :=
  (gs.map (·.width)).sum

/-- Cuts off what lies behind the edge of `limit` columns, `used` of which are taken, after skipping
`skip` columns. A glyph that is only partly skipped is kept whole, and one that is wider than the
limit is left out. -/
def cutFrom (limit : Nat) : Nat → Nat → List Glyph → List Glyph
  | _, _, [] => []
  | skip, used, g :: gs =>
    if limit < g.width then cutFrom limit skip used gs
    else if limit < used + g.width then []
    else if skip = 0 || skip < g.width then g :: cutFrom limit 0 (used + g.width) gs
    else cutFrom limit (skip - g.width) used gs

def cut (limit skip : Nat) (gs : List Glyph) : List Glyph :=
  cutFrom limit skip 0 gs

/-- A glyph at which a line may be folded. -/
def Glyph.isBlank (g : Glyph) : Bool :=
  g.symbol == ['\u200B'] || (g.symbol.all Text.isBlank && g.symbol != ['\u00A0'])

/-- A line being folded: the finished lines, the latest first, the line under way, the blanks behind
it, and the word behind them. -/
structure Folding where
  finished : List (List Glyph)
  line : List Glyph
  blanks : List Glyph
  word : List Glyph
  /-- The glyph before was no blank. -/
  afterWord : Bool

namespace Folding

def start : Folding :=
  { finished := [], line := [], blanks := [], word := [], afterWord := false }

/-- Puts the word behind the line. Blanks at the beginning of a line are dropped. -/
def closeWord (f : Folding) : Folding :=
  { f with
    line := (if f.line.isEmpty then [] else f.line ++ f.blanks) ++ f.word
    blanks := [], word := [] }

/-- Drops blanks from the front that fit into `room` columns. -/
def dropBlanks : Nat → List Glyph → List Glyph
  | _, [] => []
  | room, g :: gs => if room < g.width then g :: gs else dropBlanks (room - g.width) gs

/-- Ends the line. The blanks that would still fit on it are dropped. -/
def endLine (limit : Nat) (f : Folding) : Folding :=
  { f with
    finished := f.line :: f.finished, line := []
    blanks := dropBlanks (limit - columns f.line) f.blanks }

def add (f : Folding) (g : Glyph) : Folding :=
  if g.isBlank then { f with blanks := f.blanks ++ [g], afterWord := false }
  else { f with word := f.word ++ [g], afterWord := true }

/-- The word ends before the glyph, or the line holds nothing and the word or the blanks before it
would not fit with the glyph. -/
def closes (limit : Nat) (f : Folding) (g : Glyph) : Bool :=
  (f.afterWord && g.isBlank) ||
    (f.line.isEmpty &&
      (limit < columns f.word + g.width || limit < columns f.blanks + g.width))

/-- The line is full, or the glyph finds no room behind all that waits to be put on it. -/
def isFull (limit : Nat) (f : Folding) (g : Glyph) : Bool :=
  limit ≤ columns f.line ||
    (0 < g.width && limit ≤ columns f.line + columns f.blanks + columns f.word)

/-- Takes the next glyph. One that is wider than the limit is left out. -/
def step (limit : Nat) (f : Folding) (g : Glyph) : Folding :=
  if limit < g.width then f
  else
    let f := if f.closes limit g then f.closeWord else f
    if f.isFull limit g then
      let f := f.endLine limit
      if g.isBlank && f.blanks.isEmpty then f else f.add g
    else f.add g

/-- All lines, of which there is at least one. -/
def lines (f : Folding) : List (List Glyph) :=
  let finished :=
    if f.line.isEmpty && f.word.isEmpty && !f.blanks.isEmpty then [] :: f.finished else f.finished
  let last := f.closeWord.line
  let all := if last.isEmpty then finished else last :: finished
  if all.isEmpty then [[]] else all.reverse

end Folding

/-- Folds a line at blanks into lines of at most `limit` columns. -/
def fold (limit : Nat) (gs : List Glyph) : List (List Glyph) :=
  (gs.foldl (Folding.step limit) .start).lines

end FeedExplorer.Screen
