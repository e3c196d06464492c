/-!
# Similar words

How much two words have in common, from zero to one, and the words that come close to one that
was mistyped.
-/

namespace FeedExplorer.Cli

/-- Finds a partner for a letter among the free letters from place `low` up to before `high`, and
takes it. The letters stand from place `i` on; a taken letter is marked. -/
def takePartner (c : Char) (low high : Nat) : Nat → List (Char × Bool) → Option (List (Char × Bool))
  | _, [] => none
  | i, (d, taken) :: rest =>
    if high ≤ i then none
    else if low ≤ i ∧ c = d ∧ ¬ taken then some ((d, true) :: rest)
    else (takePartner c low high (i + 1) rest).map ((d, taken) :: ·)

/-- The letters with partners, in order, and the marked letters of the other word. -/
def matchLetters (range : Nat) : Nat → List Char → List (Char × Bool) →
    List Char × List (Char × Bool)
  | _, [], other => ([], other)
  | i, c :: cs, other =>
    match takePartner c (i - range) (i + range + 1) 0 other with
    | some other =>
      let (found, other) := matchLetters range (i + 1) cs other
      (c :: found, other)
    | none => matchLetters range (i + 1) cs other

/-- The similarity of two words as a fraction. -/
def similarity (a b : String) : Nat × Nat :=
  let x := a.toList
  let y := b.toList
  if x.isEmpty ∧ y.isEmpty then (1, 1)
  else
    let range := max x.length y.length / 2 - 1
    let (found, marked) := matchLetters range 0 x (y.map (·, false))
    let partners := (marked.filter (·.2)).map (·.1)
    let m := found.length
    let swapped := ((found.zip partners).filter fun (p, q) => p ≠ q).length / 2
    if m = 0 then (0, 1)
    else
      (m * m * y.length + m * m * x.length + (m - swapped) * x.length * y.length,
        3 * m * x.length * y.length)

/-- The words whose similarity is above seven tenths, the closest last. -/
def similarWords (word : String) (known : List String) : List String :=
  let close := (known.map fun k => (similarity word k, k)).filter
    fun ((num, den), _) => 7 * den < 10 * num
  let sorted := close.mergeSort fun ((a, b), _) ((c, d), _) => decide (a * d ≤ c * b)
  sorted.map (·.2)

end FeedExplorer.Cli
