/-!
# Styles

Colours and weight of the letters on a screen. A style says nothing about what it leaves out.
-/

namespace FeedExplorer.Screen

inductive Color where
  /-- Whatever the terminal starts with. -/
  | reset
  | black
  | red
  | green
  | yellow
  | magenta
  | cyan
  | gray
  | darkGray
  | white
  deriving DecidableEq, Repr

def Color.name : Color → String
  | .reset => "Reset"
  | .black => "Black"
  | .red => "Red"
  | .green => "Green"
  | .yellow => "Yellow"
  | .magenta => "Magenta"
  | .cyan => "Cyan"
  | .gray => "Gray"
  | .darkGray => "DarkGray"
  | .white => "White"

/-- A style to put over another. -/
structure Style where
  ink : Option Color
  ground : Option Color
  bold : Bool
  deriving DecidableEq, Repr

namespace Style

def plain : Style :=
  ⟨none, none, false⟩

def ofInk (c : Color) : Style :=
  ⟨some c, none, false⟩

def boldInk (c : Color) : Style :=
  ⟨some c, none, true⟩

end Style

end FeedExplorer.Screen
