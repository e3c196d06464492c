import FeedExplorer.Session.LineInput

/-!
# Keys

The keys of a terminal and the edits of a line that they stand for.
-/

namespace FeedExplorer.Session

inductive Key where
  | up
  | down
  | left
  | right
  | home
  | toEnd
  | delete
  | backspace
  | enter
  | tab
  | escape
  | char (c : Char)
  /-- A letter together with the control key. -/
  | control (c : Char)
  /-- A letter together with the alt key. -/
  | altLetter (c : Char)
  /-- A letter together with the meta key. -/
  | metaLetter (c : Char)
  | controlLeft
  | controlRight
  | controlDelete
  /-- The backspace key together with the alt key or the meta key. -/
  | altBackspace
  /-- A key with no meaning of its own, such as a function key. -/
  | other
  deriving DecidableEq, Repr

namespace Key

/-- The key for a letter with the control key; two of the combinations are keys of their own. -/
def ofControl (c : Char) : Key :=
  match c with
  | 'i' => .tab
  | 'm' => .enter
  | '[' => .escape
  | c => .control c

/-- The letter of a key, whatever is held with it. -/
def letter? : Key → Option Char
  | .char c | .control c | .altLetter c | .metaLetter c => some c
  | _ => none

/-- The backspace key, whatever is held with it. -/
def isBackspace (k : Key) : Bool :=
  k == .backspace || k == .altBackspace

/-- The keys that end the program. -/
def quits (k : Key) : Bool :=
  k == .escape || k == .control 'c'

def edit? : Key → Option Edit
  | .char c => some (.insert c)
  | .backspace | .control 'h' => some .deletePrevious
  | .delete => some .deleteNext
  | .left | .control 'b' => some .toPrevious
  | .right | .control 'f' => some .toNext
  | .home | .control 'a' => some .toStart
  | .toEnd | .control 'e' => some .toEnd
  | .controlLeft | .metaLetter 'b' => some .toPreviousWord
  | .controlRight | .metaLetter 'f' => some .toNextWord
  | .control 'u' => some .deleteAll
  | .control 'w' | .metaLetter 'd' | .altBackspace => some .deletePreviousWord
  | .controlDelete => some .deleteNextWord
  | .control 'k' => some .deleteRest
  | _ => none

end Key

end FeedExplorer.Session
