/-!
# Trouble

What is told to the user when something fails: a text and the texts of its causes, outermost
first.
-/

namespace FeedExplorer

structure Trouble where
  text : String
  causes : List String
  deriving DecidableEq, Repr

namespace Trouble

/-- Trouble that says it all. -/
def plain (text : String) : Trouble :=
  ⟨text, []⟩

/-- Trouble seen from further out. -/
def within (context : String) (t : Trouble) : Trouble :=
  ⟨context, t.text :: t.causes⟩

/-- A context around a single cause. -/
def caused (context cause : String) : Trouble :=
  ⟨context, [cause]⟩

/-- All texts on one line. -/
def line (t : Trouble) : String :=
  ": ".intercalate (t.text :: t.causes)

/-- A text with every further line moved in. -/
def indent (margin text : String) : String :=
  String.ofList (text.toList.flatMap fun c => if c = '\n' then '\n' :: margin.toList else [c])

/-- Several causes are numbered. -/
def causeLines (numbered : Bool) : Nat → List String → List String
  | _, [] => []
  | n, cause :: rest =>
    let head := if numbered then s!"    {n}: " ++ indent "       " cause
      else "    " ++ indent "    " cause
    head :: causeLines numbered (n + 1) rest

/-- The text, and the causes on lines of their own. -/
def report (t : Trouble) : String :=
  if t.causes.isEmpty then t.text
  else
    t.text ++ "\n\nCaused by:\n" ++
      "\n".intercalate (causeLines (1 < t.causes.length) 0 t.causes)

end Trouble

end FeedExplorer
