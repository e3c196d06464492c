import FeedExplorer.Text.Property.Alphanumeric
import FeedExplorer.Text.Width

/-!
# Line input

A line of text with a cursor between two of its characters, the edits that move the cursor or
change the text, and how far the line is scrolled to keep the cursor in sight.
-/

namespace FeedExplorer.Session

structure LineInput where
  /-- The characters before the cursor, the nearest first. -/
  before : List Char
  after : List Char
  deriving DecidableEq, Repr

/-- What can be done to a line. Words are runs of letters and digits. -/
inductive Edit where
  | insert (c : Char)
  | deletePrevious
  | deleteNext
  | deletePreviousWord
  | deleteNextWord
  | deleteRest
  | deleteAll
  | toPrevious
  | toNext
  | toPreviousWord
  | toNextWord
  | toStart
  | toEnd
  deriving DecidableEq, Repr

namespace LineInput

def empty : LineInput :=
  ⟨[], []⟩

def chars (l : LineInput) : List Char :=
  l.before.reverse ++ l.after

def text (l : LineInput) : String :=
  String.ofList l.chars

def isEmpty (l : LineInput) : Bool :=
  l.before.isEmpty && l.after.isEmpty

/-- A text with the cursor before the character `cursor`, or at the end. -/
def withCursor (s : String) (cursor : Nat) : LineInput :=
  ⟨(s.toList.take cursor).reverse, s.toList.drop cursor⟩

/-- A text with the cursor at the end. -/
def ofText (s : String) : LineInput :=
  ⟨s.toList.reverse, []⟩

def isWordChar (c : Char) : Bool :=
  Text.isAlphanumeric c

/-- What lies beyond the nearest word on a side. -/
def beyondWord (cs : List Char) : List Char :=
  (cs.dropWhile fun c => !isWordChar c).dropWhile isWordChar

/-- The rest of a word and what separates it from the next one. -/
def toNextWordStart (cs : List Char) : List Char × List Char :=
  let (word, rest) := cs.span isWordChar
  let (gap, rest) := rest.span fun c => !isWordChar c
  (word ++ gap, rest)

/-- The line after an edit, unless there is nothing to do. -/
def edit (l : LineInput) : Edit → Option LineInput
  | .insert c => some { l with before := c :: l.before }
  | .deletePrevious =>
    match l.before with
    | [] => none
    | _ :: before => some { l with before }
  | .deleteNext =>
    match l.after with
    | [] => none
    | _ :: after => some { l with after }
  | .deletePreviousWord =>
    if l.before.isEmpty then none else some { l with before := beyondWord l.before }
  | .deleteNextWord =>
    if l.after.isEmpty then none else some { l with after := (toNextWordStart l.after).2 }
  | .deleteRest => some { l with after := [] }
  | .deleteAll => if l.isEmpty then none else some empty
  | .toPrevious =>
    match l.before with
    | [] => none
    | c :: before => some ⟨before, c :: l.after⟩
  | .toNext =>
    match l.after with
    | [] => none
    | c :: after => some ⟨c :: l.before, after⟩
  | .toPreviousWord =>
    if l.before.isEmpty then none
    else
      let before := beyondWord l.before
      some ⟨before, (l.before.take (l.before.length - before.length)).reverse ++ l.after⟩
  | .toNextWord =>
    if l.after.isEmpty then none
    else
      let (passed, after) := toNextWordStart l.after
      some ⟨passed.reverse ++ l.before, after⟩
  | .toStart => if l.before.isEmpty then none else some ⟨[], l.chars⟩
  | .toEnd => if l.after.isEmpty then none else some ⟨l.chars.reverse, []⟩

/-- The column of the cursor in the whole line. -/
def cursorColumn (l : LineInput) : Nat :=
  Text.widthOf l.before.reverse

/-- The columns of the characters that it takes from the front to fill at least `wanted` columns.
Characters that cannot be shown fill none. -/
def columnsUpTo (wanted : Nat) : Nat → List Char → Nat
  | filled, [] => filled
  | filled, c :: cs =>
    if filled < wanted then columnsUpTo wanted (filled + (Text.glyphWidth? c).getD 0) cs else filled

/-- How many columns are out of sight at the left when `width` columns are shown. -/
def scroll (l : LineInput) (width : Nat) : Nat :=
  columnsUpTo (l.cursorColumn - width) 0 l.chars

@[simp] theorem chars_ofText (s : String) : (ofText s).chars = s.toList := by
  simp [ofText, chars]

@[simp] theorem chars_withCursor (s : String) (n : Nat) : (withCursor s n).chars = s.toList := by
  simp [withCursor, chars]

end LineInput

end FeedExplorer.Session
