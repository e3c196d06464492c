/-!
# Padded fields

A text widened with spaces to a number of characters. A text that is already that long stays
as it is, so a column can be pushed out but never loses characters.
-/

namespace FeedExplorer.Text

/-- `n` spaces. -/
def spaces (n : Nat) : String :=
  String.ofList (List.replicate n ' ')

/-- Spaces before the text. -/
def alignRight (width : Nat) (s : String) : String :=
  spaces (width - s.length) ++ s

/-- Spaces behind the text. -/
def alignLeft (width : Nat) (s : String) : String :=
  s ++ spaces (width - s.length)

/-- Spaces on both sides; an odd one goes behind. -/
def alignCenter (width : Nat) (s : String) : String :=
  let gap := width - s.length
  spaces (gap / 2) ++ s ++ spaces (gap - gap / 2)

theorem length_spaces (n : Nat) : (spaces n).length = n := by
  simp [spaces]

theorem length_alignRight (width : Nat) (s : String) :
    (alignRight width s).length = max width s.length := by
  simp only [alignRight, String.length_append, length_spaces]
  omega

theorem length_alignLeft (width : Nat) (s : String) :
    (alignLeft width s).length = max width s.length := by
  simp only [alignLeft, String.length_append, length_spaces]
  omega

end FeedExplorer.Text
