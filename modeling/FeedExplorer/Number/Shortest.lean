import FeedExplorer.Number.Binary64

/-!
# Shortest decimals

The fewest decimal digits that read back as a given double. On each grid of `n` significant
digits the two neighbours of the exact value are tried; the first grid with a neighbour inside
the interval of reals that round to the double wins, and of two such neighbours the nearer one.
-/

namespace FeedExplorer.Number

/-- The decimal `digits · 10 ^ scale`. -/
structure Decimal where
  digits : Nat
  scale : Int
  deriving DecidableEq, Repr

/-- The positive rational `num / den` as a fraction of `10 ^ scale`. -/
def scaled (num den : Nat) (scale : Int) : Nat × Nat :=
  if 0 ≤ scale then (num, den * Nat.pow 10 scale.toNat) else (num * Nat.pow 10 (-scale).toNat, den)

/-- `10 ^ k ≤ num / den`. -/
def reaches (num den : Nat) (k : Int) : Bool :=
  let (n, d) := scaled num den k
  decide (d ≤ n)

/-- Raises `k` while the next power of ten is still reached. -/
def climb (num den : Nat) : Nat → Int → Int
  | 0, k => k
  | fuel + 1, k => if reaches num den (k + 1) then climb num den fuel (k + 1) else k

/-- The exponent of the leading decimal digit of `num / den`. -/
def leadingDigit (num den : Nat) : Int :=
  let bits : Int := (Nat.log2 num : Int) - Nat.log2 den
  climb num den 6 (bits * 30103 / 100000 - 3)

/-- The interval of reals that round to a double, times four over its last place. -/
structure Cell where
  low : Nat
  mid : Nat
  high : Nat
  closed : Bool

/-- Below a power of two the neighbours are half as far apart. -/
def cellOf (x : Binary64) : Cell :=
  let m := x.mantissa
  { low := if x.fractionBits = 0 ∧ 1 < x.exponentBits then 4 * m - 1 else 4 * m - 2
    mid := 4 * m
    high := 4 * m + 2
    closed := m % 2 == 0 }

/-- Whether `d / unit` lies in the cell, all ends being numerators over `unit`. -/
def Cell.holds (c : Cell) (d low high : Nat) : Bool :=
  if c.closed then decide (low ≤ d ∧ d ≤ high) else decide (low < d ∧ d < high)

/-- The better of the two grid neighbours of `mid`, on the grid of multiples of `step`. -/
def nearestOnGrid (c : Cell) (low mid high step : Nat) : Option Nat :=
  let d := mid / step
  let below := c.holds (d * step) low high && decide (0 < d)
  let above := c.holds ((d + 1) * step) low high
  let r := mid - d * step
  match below, above with
  | true, true =>
    if 2 * r < step ∨ (2 * r = step ∧ d % 2 = 0) then some d else some (d + 1)
  | true, false => some d
  | false, true => some (d + 1)
  | false, false => none

/-- The neighbour on the grid with spacing `10 ^ scale`. -/
def onGrid (x : Binary64) (c : Cell) (scale : Int) : Option Nat :=
  let e := x.exponent - 2
  let num := Nat.pow 2 e.toNat
  let den := Nat.pow 2 (-e).toNat
  let (n, step) := scaled num den scale
  nearestOnGrid c (c.low * n) (c.mid * n) (c.high * n) step

/-- Tries finer and finer grids. -/
def search (x : Binary64) (c : Cell) : Nat → Int → Decimal
  | 0, scale => ⟨(onGrid x c scale).getD 0, scale⟩
  | fuel + 1, scale =>
    match onGrid x c scale with
    | some d => ⟨d, scale⟩
    | none => search x c fuel (scale - 1)

/-- Moves zeros at the end of the digits into the scale. -/
def Decimal.strip : Nat → Decimal → Decimal
  | 0, d => d
  | fuel + 1, d =>
    if d.digits ≠ 0 ∧ d.digits % 10 = 0 then strip fuel ⟨d.digits / 10, d.scale + 1⟩ else d

/-- The shortest decimal that reads back as a double other than zero. -/
def shortest (x : Binary64) : Decimal :=
  let c := cellOf x
  (search x c 17 (leadingDigit x.numerator x.denominator)).strip 20

/-- The digits of a number in base ten. -/
def digitsOf (n : Nat) : List Char :=
  Nat.toDigits 10 n

end FeedExplorer.Number
