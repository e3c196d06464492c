import FeedExplorer.Json.Fault
import FeedExplorer.Text.Field

/-!
# Faults of a settings text

A complaint about a settings text, shown under the line it is about.
-/

namespace FeedExplorer.Toml

/-- The complaint, how many characters stand behind its place, and how many bytes it marks. -/
structure Fault where
  message : String
  unread : Nat
  width : Nat
  deriving DecidableEq, Repr

/-- A kind of thing that was found broken, and what could have stood there. -/
def complaint (label : Option String) (expected : List String) : String :=
  let head := label.toList.map ("invalid " ++ ·)
  let tail := if expected.isEmpty then [] else ["expected " ++ ", ".intercalate expected]
  "\n".intercalate (head ++ tail)

/-- A fault at the next character. -/
def Fault.atNext (label : Option String) (expected : List String) (rest : List Char) : Fault :=
  ⟨complaint label expected, rest.length, 1⟩

/-- Something at the next character is nested too deep. -/
def Fault.tooDeep (rest : List Char) : Fault :=
  ⟨"recursion limit exceeded", rest.length, 1⟩

/-- The lines of a text, without what ends them. -/
def splitLines : List Char → List (List Char)
  | [] => [[]]
  | c :: cs =>
    if c = '\n' then [] :: splitLines cs
    else
      match splitLines cs with
      | line :: rest => (c :: line) :: rest
      | [] => [[c]]

/-- The place, the line it is in, and a mark under it, followed by the complaint. -/
def Fault.render (text : List Char) (f : Fault) : String :=
  let before := text.take (text.length - f.unread)
  let line := before.count '\n'
  let column := (before.reverse.takeWhile (· ≠ '\n')).length
  let content := (splitLines text)[line]?.getD []
  let number := toString (line + 1)
  let gutter := Text.spaces (number.length + 1) ++ "|"
  let width := max 1 (min f.width (Json.byteCount content - column))
  s!"TOML parse error at line {number}, column {column + 1}\n" ++ gutter ++ "\n" ++
    number ++ " | " ++ String.ofList content ++ "\n" ++
    gutter ++ Text.spaces (column + 1) ++ String.ofList (List.replicate width '^') ++ "\n" ++
    f.message ++ "\n"

end FeedExplorer.Toml
