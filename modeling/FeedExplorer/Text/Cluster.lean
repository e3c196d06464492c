import FeedExplorer.Text.Property.ClusterBreak

/-!
# Clusters

The grapheme clusters of a text, which are what a reader takes for single characters. Main
statement: the clusters of a text joined together are the text.
-/

namespace FeedExplorer.Text

/-- What a character is to its neighbours in a cluster. -/
inductive ClusterClass where
  | carriageReturn
  | lineFeed
  | control
  | extend
  | joiner
  | regional
  | prepended
  | spacingMark
  | leading
  | vowel
  | trailing
  | syllable
  | closedSyllable
  | pictograph
  | other
  deriving DecidableEq, Repr

namespace ClusterClass

/-- Between two code points, inclusive. -/
def within (first last n : Nat) : Bool :=
  decide (first ≤ n) && decide (n ≤ last)

/-- The classes of Hangul, which follow from the layout of its blocks. -/
def hangul? (n : Nat) : Option ClusterClass :=
  if within 0x1100 0x115F n || within 0xA960 0xA97C n then some .leading
  else if within 0x1160 0x11A7 n || within 0xD7B0 0xD7C6 n then some .vowel
  else if within 0x11A8 0x11FF n || within 0xD7CB 0xD7FB n then some .trailing
  else if within 0xAC00 0xD7A3 n then
    some (if (n - 0xAC00) % 28 = 0 then .syllable else .closedSyllable)
  else none

def ofChar (c : Char) : ClusterClass :=
  let n := c.toNat
  if c = '\r' then .carriageReturn
  else if c = '\n' then .lineFeed
  else if covers controlRanges n then .control
  else if n < 0x80 then .other
  else if n = 0x200D then .joiner
  else if within 0x1F1E6 0x1F1FF n then .regional
  else
    match hangul? n with
    | some k => k
    | none =>
      if covers extendRanges n then .extend
      else if covers spacingMarkRanges n then .spacingMark
      else if covers prependRanges n then .prepended
      else if covers pictographRanges n then .pictograph
      else .other

def isBreaker : ClusterClass → Bool
  | .carriageReturn | .lineFeed | .control => true
  | _ => false

end ClusterClass

/-- What of a cluster matters for whether the next character belongs to it. -/
structure ClusterEnd where
  last : ClusterClass
  /-- It ends in a pictograph with extending characters, perhaps a joiner last. -/
  pictographic : Bool
  /-- It ends in an odd number of regional indicators. -/
  oddRegional : Bool
  deriving DecidableEq, Repr

namespace ClusterEnd

def start (k : ClusterClass) : ClusterEnd :=
  { last := k, pictographic := k == .pictograph, oddRegional := k == .regional }

/-- A character of class `k` belongs to the cluster. -/
def joins (e : ClusterEnd) (k : ClusterClass) : Bool :=
  match e.last, k with
  | .carriageReturn, .lineFeed => true
  | .leading, .leading | .leading, .vowel | .leading, .syllable | .leading, .closedSyllable => true
  | .syllable, .vowel | .syllable, .trailing | .vowel, .vowel | .vowel, .trailing => true
  | .closedSyllable, .trailing | .trailing, .trailing => true
  | .joiner, .pictograph => e.pictographic
  | .regional, .regional => e.oddRegional
  | last, k =>
    if last.isBreaker || k.isBreaker then false
    else
      match k with
      | .extend | .joiner | .spacingMark => true
      | _ => last == .prepended

/-- The end of the cluster with a character of class `k` added. -/
def next (e : ClusterEnd) (k : ClusterClass) : ClusterEnd :=
  { last := k
    pictographic := k == .pictograph ||
      (e.pictographic && e.last != .joiner && (k == .extend || k == .joiner))
    oddRegional := k == .regional && !(e.last == .regional && e.oddRegional) }

end ClusterEnd

/-- The clusters of a text that goes on from the cluster `current`, given in reverse. -/
def clustersFrom (current : List Char) (e : ClusterEnd) : List Char → List (List Char)
  | [] => [current.reverse]
  | c :: cs =>
    let k := ClusterClass.ofChar c
    if e.joins k then clustersFrom (c :: current) (e.next k) cs
    else current.reverse :: clustersFrom [c] (.start k) cs

def clusters : List Char → List (List Char)
  | [] => []
  | c :: cs => clustersFrom [c] (.start (.ofChar c)) cs

theorem flatten_clustersFrom (current : List Char) (e : ClusterEnd) (cs : List Char) :
    (clustersFrom current e cs).flatten = current.reverse ++ cs := by
  induction cs generalizing current e with
  | nil => simp [clustersFrom]
  | cons c cs ih =>
    simp only [clustersFrom]
    split
    · simp [ih]
    · simp [ih]

theorem flatten_clusters (cs : List Char) : (clusters cs).flatten = cs := by
  cases cs with
  | nil => rfl
  | cons c cs => simp [clusters, flatten_clustersFrom]

end FeedExplorer.Text
