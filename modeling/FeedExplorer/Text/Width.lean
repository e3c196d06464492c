import FeedExplorer.Number.Sum
import FeedExplorer.Text.Cluster
import FeedExplorer.Text.Property.CellWidth

/-!
# Widths

How many columns of a character grid a text takes.
-/

namespace FeedExplorer.Text

open scoped Number

/-- The columns of a character that can be shown; control characters cannot. -/
def glyphWidth? (c : Char) : Option Nat :=
  let n := c.toNat
  if n < 0x20 then none
  else if n < 0x7F then some 1
  else if n < 0xA0 then none
  else if isZeroWidth c then some 0
  else if isDoubleWidth c then some 2
  else some 1

/-- A control character takes a column in a text. -/
def charWidth (c : Char) : Nat :=
  (glyphWidth? c).getD 1

def isPictograph (c : Char) : Bool :=
  c.toNat ≥ 0x80 && covers pictographRanges c.toNat

/-- The selector that asks for a picture in place of a letter. -/
def pictureSelector : Char := '\uFE0F'

def isSkinTone (c : Char) : Bool :=
  ClusterClass.within 0x1F3FB 0x1F3FF c.toNat

/-- The characters of keys, which have pictures too. -/
def isKeyChar (c : Char) : Bool :=
  c.isDigit || c == '#' || c == '*'

/-- The cluster is a single picture made from several characters. -/
def isPicture : List Char → Bool
  | [] => false
  | c :: cs =>
    ((isPictograph c || isKeyChar c) && cs.head? == some pictureSelector) ||
      (isPictograph c && cs.any fun d => isSkinTone d || isPictograph d)

def clusterWidth (cs : List Char) : Nat :=
  if cs == ['\r', '\n'] then 1
  else if isPicture cs then 2
  else (cs.map charWidth).sum

/-- The columns of a text. -/
def widthOf (cs : List Char) : Nat :=
  ((clusters cs).map clusterWidth).sum

def width (s : String) : Nat :=
  widthOf s.toList

@[simp] theorem widthOf_nil : widthOf [] = 0 := rfl

end FeedExplorer.Text
