/-!
# Punycode

Labels with characters beyond ASCII, written with letters, digits and hyphens.
-/

namespace FeedExplorer.Url.Punycode

/-- The digit of a value below 36. -/
def digit (n : Nat) : Char :=
  if n < 26 then Char.ofNat (97 + n) else Char.ofNat (22 + n)

def digitValue? (c : Char) : Option Nat :=
  if 'a' ≤ c ∧ c ≤ 'z' then some (c.toNat - 97)
  else if 'A' ≤ c ∧ c ≤ 'Z' then some (c.toNat - 65)
  else if '0' ≤ c ∧ c ≤ '9' then some (c.toNat - 22)
  else none

/-- Divides by 35 until the rest is small; the steps are counted in 36s. -/
def reduceDelta : Nat → Nat → Nat → Nat × Nat
  | 0, k, delta => (k, delta)
  | fuel + 1, k, delta =>
    if 455 < delta then reduceDelta fuel (k + 36) (delta / 35) else (k, delta)

/-- The bias after a step. -/
def adapt (delta count : Nat) (first : Bool) : Nat :=
  let delta := if first then delta / 700 else delta / 2
  let (k, delta) := reduceDelta 64 0 (delta + delta / count)
  k + 36 * delta / (delta + 38)

/-- The threshold of the digit at weight `k`. -/
def threshold (k bias : Nat) : Nat :=
  min 26 (max 1 (k - bias))

/-- The digits of a step. -/
def stepDigits (bias : Nat) : Nat → Nat → Nat → List Char
  | 0, _, q => [digit q]
  | fuel + 1, k, q =>
    let t := threshold k bias
    if q < t then [digit q]
    else digit (t + (q - t) % (36 - t)) :: stepDigits bias fuel (k + 36) ((q - t) / (36 - t))

/-- How far the writing has come. -/
structure Progress where
  delta : Nat
  bias : Nat
  handled : Nat
  out : List Char

/-- Writes a step at every character that equals `m`. -/
def writeAll (m basic : Nat) (p : Progress) : List Nat → Progress
  | [] => p
  | c :: cs =>
    if c < m then writeAll m basic { p with delta := p.delta + 1 } cs
    else if c = m then
      writeAll m basic
        { delta := 0, bias := adapt p.delta (p.handled + 1) (p.handled == basic)
          handled := p.handled + 1, out := p.out ++ stepDigits p.bias 64 36 p.delta } cs
    else writeAll m basic p cs

/-- Takes the code points in rising order. The first argument bounds their number. -/
def writeFrom (all : List Nat) (basic : Nat) : Nat → Nat → Progress → List Char
  | 0, _, p => p.out
  | fuel + 1, n, p =>
    match (all.filter (n ≤ ·)).min? with
    | none => p.out
    | some m =>
      let p := writeAll m basic { p with delta := p.delta + (m - n) * (p.handled + 1) } all
      writeFrom all basic fuel (m + 1) { p with delta := p.delta + 1 }

/-- A label without the mark in front. -/
def encode (label : List Char) : List Char :=
  let basic := label.filter (·.toNat < 128)
  let head := if basic.isEmpty then [] else basic ++ ['-']
  writeFrom (label.map Char.toNat) basic.length label.length 128
    { delta := 0, bias := 72, handled := basic.length, out := head }

/-- The value of the digits of a step, and the rest. -/
def readStep (bias : Nat) : Nat → Nat → Nat → List Char → Option (Nat × List Char)
  | _, _, _, [] => none
  | k, weight, sum, c :: cs => do
    let d ← digitValue? c
    let t := threshold k bias
    let sum := sum + d * weight
    if 4294967296 ≤ sum then none
    else if d < t then some (sum, cs)
    else readStep bias (k + 36) (weight * (36 - t)) sum cs

/-- Puts characters at their places. The first argument bounds the number of steps. -/
def readFrom : Nat → Nat → Nat → Nat → List Char → List Char → Option (List Char)
  | 0, _, _, _, _, out => some out
  | _ + 1, _, _, _, [], out => some out
  | fuel + 1, n, i, bias, cs, out => do
    let (step, rest) ← readStep bias 36 1 0 cs
    let count := out.length + 1
    let total := i + step
    let n := n + total / count
    let place := total % count
    if ¬ n.isValidChar then none
    else
      readFrom fuel n (place + 1) (adapt step count (i == 0))
        rest (out.take place ++ Char.ofNat n :: out.drop place)

/-- The label that a written form stands for. -/
def decode? (cs : List Char) : Option (List Char) :=
  let tail := (cs.reverse.takeWhile (· ≠ '-')).reverse
  let head := cs.take (cs.length - tail.length - 1)
  readFrom cs.length 128 0 72 tail head

end FeedExplorer.Url.Punycode
