import FeedExplorer.Number.Rounding
import FeedExplorer.Number.Sum
import FeedExplorer.Screen.Area

/-!
# Splitting areas

An area cut into strips that lie side by side. Where there is room every strip gets its extent, and
what is left over goes to a strip that may grow. Where there is not, the strip that may grow gets
its minimum first and the others share the rest.

The rest is given out one layer at a time. A layer is a cell for each strip of a run of neighbours
that still want one. Every run has a cost: each end of it counts one, or minus one next to a strip
that keeps its minimum, or nothing at the edge of the area. Runs are served by cost per strip, the
cheapest first, and lower layers before higher ones. The strips of the last run to be served share
evenly, and every boundary is rounded to a whole cell, halves up.
-/

namespace FeedExplorer.Screen

open scoped Number

inductive Extent where
  | exactly (n : Nat)
  | atLeast (n : Nat)
  deriving DecidableEq, Repr

namespace Extent

def least : Extent → Nat
  | .exactly n => n
  | .atLeast n => n

/-- It wants a cell more than `t`, but not before others have their minimum. -/
def wants (t : Nat) : Extent → Bool
  | .exactly n => t < n
  | .atLeast _ => false

/-- It has a cell more than `t` in any case. -/
def keeps (t : Nat) : Extent → Bool
  | .exactly _ => false
  | .atLeast n => t < n

end Extent

/-- The least extents together. -/
def leastTotal (es : List Extent) : Nat :=
  (es.map (·.least)).sum

/-- A run of strips that want a cell. -/
structure Run where
  first : Nat
  count : Nat
  cost : Int
  deriving DecidableEq, Repr

/-- What the neighbour of an end of a run costs. -/
def edgeCost (t : Nat) : Option Extent → Int
  | none => 0
  | some e => if e.keeps t then -1 else 1

/-- The runs of layer `t`. -/
def runsOf (es : List Extent) (t : Nat) : List Run :=
  (List.range es.length).filterMap fun i =>
    let before := if i = 0 then none else es[i - 1]?
    let count := ((es.drop i).takeWhile (·.wants t)).length
    if count = 0 || before.any (·.wants t) then none
    else some { first := i, count, cost := edgeCost t before + edgeCost t es[i + count]? }

/-- All runs in the order in which they are served. -/
def served (es : List Extent) : List Run :=
  let layers := (es.map (·.least)).foldl max 0
  ((List.range layers).flatMap (runsOf es)).mergeSort fun a b =>
    decide (a.cost * b.count ≤ b.cost * a.count)

/-- Whole cells for every strip, and a run that shares some more. -/
structure Shares where
  cells : List Nat
  run : Run
  rest : Nat
  deriving Repr

/-- A cell more for every strip of a run. -/
def addRun (r : Run) (cells : List Nat) : List Nat :=
  cells.mapIdx fun i n => if r.first ≤ i ∧ i < r.first + r.count then n + 1 else n

/-- Serves runs with `room` cells. -/
def serve (room : Nat) (cells : List Nat) : List Run → Shares
  | [] => { cells, run := ⟨0, 1, 0⟩, rest := 0 }
  | r :: rs =>
    if r.count ≤ room then serve (room - r.count) (addRun r cells) rs
    else { cells, run := r, rest := room }

/-- Gives the strips that keep their minimum what there is of it. -/
def keepMinimum : Nat → List Extent → List Nat
  | _, [] => []
  | room, .exactly _ :: es => 0 :: keepMinimum room es
  | room, .atLeast n :: es => min n room :: keepMinimum (room - n) es

/-- Every strip has its least extent and the first that may grow has `slack` more. -/
def grow (slack : Nat) : List Extent → List Nat
  | [] => []
  | .exactly n :: es => n :: grow slack es
  | .atLeast n :: es => (n + slack) :: grow 0 es

def sharesOf (length : Nat) (es : List Extent) : Shares :=
  if leastTotal es ≤ length then
    { cells := grow (length - leastTotal es) es, run := ⟨0, 1, 0⟩, rest := 0 }
  else
    let kept := keepMinimum length es
    serve (length - kept.sum) kept (served es)

/-- Where the strip `i` begins. -/
def Shares.boundary (s : Shares) (i : Nat) : Nat :=
  (s.cells.take i).sum +
    Number.roundUp (s.rest * min (i - s.run.first) s.run.count) s.run.count

/-- Strips as offsets and sizes. -/
def strips (length : Nat) (es : List Extent) : List (Nat × Nat) :=
  let s := sharesOf length es
  (List.range es.length).map fun i => (s.boundary i, s.boundary (i + 1) - s.boundary i)

/-- Strips in proportion to some weights out of `total`. -/
def proportions (length total : Nat) (weights : List Nat) : List (Nat × Nat) :=
  let boundary := fun i => Number.roundUp (length * (weights.take i).sum) total
  (List.range weights.length).map fun i => (boundary i, boundary (i + 1) - boundary i)

namespace Area

/-- Strips below each other. -/
def stacked (a : Area) (es : List Extent) : List Area :=
  (strips a.height es).map fun (offset, size) => { a with y := a.y + offset, height := size }

/-- Strips next to each other. -/
def sideBySide (a : Area) (total : Nat) (weights : List Nat) : List Area :=
  (proportions a.width total weights).map fun (offset, size) =>
    { a with x := a.x + offset, width := size }

theorem length_stacked (a : Area) (es : List Extent) : (a.stacked es).length = es.length := by
  simp [stacked, strips]

theorem length_sideBySide (a : Area) (total : Nat) (weights : List Nat) :
    (a.sideBySide total weights).length = weights.length := by
  simp [sideBySide, proportions]

/-- Strips below each other have all columns of the area. -/
theorem width_of_mem_stacked {a s : Area} {es : List Extent} (h : s ∈ a.stacked es) :
    s.x = a.x ∧ s.width = a.width := by
  obtain ⟨strip, _, rfl⟩ := List.mem_map.mp h
  exact ⟨rfl, rfl⟩

end Area

end FeedExplorer.Screen
