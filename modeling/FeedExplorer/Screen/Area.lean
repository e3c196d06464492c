/-!
# Areas

Rectangles of cells. Columns are counted from the left and rows from the top, both from zero.
-/

namespace FeedExplorer.Screen

structure Area where
  x : Nat
  y : Nat
  width : Nat
  height : Nat
  deriving DecidableEq, Repr

namespace Area

/-- The column behind the last one. -/
def right (a : Area) : Nat :=
  a.x + a.width

/-- The row below the last one. -/
def bottom (a : Area) : Nat :=
  a.y + a.height

def isEmpty (a : Area) : Bool :=
  a.width == 0 || a.height == 0

/-- The cell in column `x` and row `y` is in the area. -/
def Contains (a : Area) (x y : Nat) : Prop :=
  a.x ≤ x ∧ x < a.right ∧ a.y ≤ y ∧ y < a.bottom

instance (a : Area) (x y : Nat) : Decidable (a.Contains x y) :=
  inferInstanceAs (Decidable (_ ∧ _))

/-- The cells of both areas. -/
def inter (a b : Area) : Area :=
  let x := max a.x b.x
  let y := max a.y b.y
  { x, y, width := min a.right b.right - x, height := min a.bottom b.bottom - y }

/-- What a margin of `n` cells on every side leaves. -/
def padded (a : Area) (n : Nat) : Area :=
  { x := a.x + n, y := a.y + n, width := a.width - n * 2, height := a.height - n * 2 }

/-- What a frame leaves. An area too narrow for a frame leaves an empty one. -/
def inner (a : Area) : Area :=
  { x := min (a.x + 1) a.right, y := min (a.y + 1) a.bottom
    width := a.width - 2, height := a.height - 2 }

/-- The row that is `i` rows below the top. -/
def row (a : Area) (i : Nat) : Area :=
  { a with y := a.y + i, height := 1 }

/-- What is left behind the first `n` columns. -/
def behind (a : Area) (n : Nat) : Area :=
  { a with x := min (a.x + n) a.right, width := a.width - n }

theorem contains_inter {a b : Area} {x y : Nat} :
    (a.inter b).Contains x y ↔ a.Contains x y ∧ b.Contains x y := by
  simp only [Contains, inter, right, bottom]
  omega

end Area

end FeedExplorer.Screen
