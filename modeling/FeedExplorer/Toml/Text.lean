import FeedExplorer.Text.Hex
import FeedExplorer.Toml.Fault

/-!
# Quoted texts of settings

The four ways to quote a text, reading each of them, and choosing the plainest that can hold a
given text when writing.
-/

namespace FeedExplorer.Toml

/-- Controls that no quoted text can hold as they are. -/
def isBareControl (c : Char) : Bool :=
  (c.toNat < 32 && c != '\t') || c == '\x7f'

/-- Between quotes with escapes or between apostrophes without, on one line or on several. -/
structure Style where
  escapes : Bool
  multiline : Bool
  deriving DecidableEq, Repr

def Style.mark (s : Style) : Char :=
  if s.escapes then '"' else '\''

/-- The longest run of a character. -/
def longestRun (mark : Char) (cs : List Char) : Nat :=
  (cs.foldl (fun (best, run) c => if c = mark then (max best (run + 1), run + 1) else (best, 0))
    (0, 0)).1

/-- Characters that cannot be written without an escape. -/
def needsEscape (c : Char) : Bool :=
  isBareControl c && c != '\n'

/-- The style in which a text is written: the first of the plain styles that can hold it, and
quotes with escapes when none can. -/
def styleFor (cs : List Char) : Style :=
  let codes := cs.any needsEscape
  let backslash := cs.contains '\\'
  let newline := cs.contains '\n'
  let quotes := longestRun '"' cs
  let apostrophes := longestRun '\'' cs
  if ¬ codes ∧ ¬ backslash ∧ quotes = 0 ∧ ¬ newline then ⟨true, false⟩
  else if ¬ codes ∧ apostrophes = 0 ∧ ¬ newline then ⟨false, false⟩
  else if ¬ codes ∧ ¬ backslash ∧ quotes ≤ 2 then ⟨true, true⟩
  else if ¬ codes ∧ apostrophes ≤ 2 then ⟨false, true⟩
  else ⟨true, newline⟩

/-- The characters of a text with escapes; `run` quotes have just been written, and as many as
`allowed` may stand side by side. -/
def escapeChars (multiline : Bool) (allowed : Nat) : Nat → List Char → List Char
  | _, [] => []
  | run, c :: cs =>
    if c = '"' then
      if run < allowed then '"' :: escapeChars multiline allowed (run + 1) cs
      else '\\' :: '"' :: escapeChars multiline allowed 0 cs
    else
      let written :=
        if c = '\\' then ['\\', '\\']
        else if c = '\x08' then ['\\', 'b']
        else if c = '\t' then ['\\', 't']
        else if c = '\n' then (if multiline then ['\n'] else ['\\', 'n'])
        else if c = '\x0c' then ['\\', 'f']
        else if c = '\r' then ['\\', 'r']
        else if isBareControl c then '\\' :: 'u' :: Text.hexFixedUpper 4 c.toNat
        else [c]
      written ++ escapeChars multiline allowed 0 cs

/-- A text in its quotes. Several lines begin on a line of their own. -/
def quoteChars (cs : List Char) : List Char :=
  let style := styleFor cs
  let marks := List.replicate (if style.multiline then 3 else 1) style.mark
  let body :=
    if style.escapes then escapeChars style.multiline (if style.multiline then 2 else 0) 0 cs
    else cs
  let opening := if style.multiline ∧ cs.contains '\n' then ['\n'] else []
  marks ++ opening ++ body ++ marks

/-- What may follow a backslash. -/
def escapeMarks : List String :=
  ["`b`", "`f`", "`n`", "`r`", "`t`", "`u`", "`U`", "`\\`", "`\"`"]

/-- The value of some hexadecimal digits in front. -/
def readDigits (label : String) : Nat → Nat → List Char → Except Fault (Nat × List Char)
  | 0, n, rest => .ok (n, rest)
  | _ + 1, _, [] => .error (.atNext (some label) [] [])
  | k + 1, n, c :: rest =>
    match Text.hexValue? c with
    | some d => readDigits label k (16 * n + d) rest
    | none => .error (.atNext (some label) [] (c :: rest))

/-- A character given by its number. -/
def readCode (label : String) (digits : Nat) (cs : List Char) :
    Except Fault (Char × List Char) := do
  let (n, rest) ← readDigits label digits 0 cs
  if n.isValidChar then return (Char.ofNat n, rest)
  else throw (.atNext (some label) [] cs)

/-- The character behind a backslash. -/
def readEscape : List Char → Except Fault (Char × List Char)
  | 'b' :: rest => .ok ('\x08', rest)
  | 'f' :: rest => .ok ('\x0c', rest)
  | 'n' :: rest => .ok ('\n', rest)
  | 'r' :: rest => .ok ('\r', rest)
  | 't' :: rest => .ok ('\t', rest)
  | '\\' :: rest => .ok ('\\', rest)
  | '"' :: rest => .ok ('"', rest)
  | 'u' :: rest => readCode "unicode 4-digit hex code" 4 rest
  | 'U' :: rest => readCode "unicode 8-digit hex code" 8 rest
  | rest => .error (.atNext (some "escape sequence") escapeMarks rest)

/-- A line break, in either of its forms. -/
def newline? : List Char → Option (List Char)
  | '\n' :: rest => some rest
  | '\r' :: '\n' :: rest => some rest
  | _ => none

/-- A backslash at the end of a line swallows the blanks and line breaks that follow. -/
def swallow : List Char → List Char
  | '\n' :: rest => swallow rest
  | '\r' :: '\n' :: rest => swallow rest
  | ' ' :: rest => swallow rest
  | '\t' :: rest => swallow rest
  | rest => rest

/-- Nothing but blanks stands between a backslash and the end of its line. -/
def endsLine (cs : List Char) : Bool :=
  (newline? (cs.dropWhile fun c => c == ' ' || c == '\t')).isSome

/-- Takes the closing marks of a text on several lines. Up to two more marks in front belong to the
text. -/
def closing? (mark : Char) (cs : List Char) : Option (Nat × List Char) :=
  let run := (cs.takeWhile (· = mark)).length
  if run < 3 then none else some (min (run - 3) 2, cs.drop (min run 5))

/-- The characters of a quoted text up to its closing marks. The first argument bounds the number
of steps. -/
def readBody (style : Style) (label : String) :
    Nat → List Char → Except Fault (List Char × List Char)
  | 0, cs => .error (.atNext (some label) [] cs)
  | _ + 1, [] => .error (.atNext (some label) [] [])
  | fuel + 1, c :: cs =>
    if c = style.mark then
      if style.multiline then
        match closing? style.mark (c :: cs) with
        | some (extra, rest) => .ok (List.replicate extra style.mark, rest)
        | none => do
          let (tail, rest) ← readBody style label fuel cs
          return (c :: tail, rest)
      else .ok ([], cs)
    else if c = '\\' ∧ style.escapes then
      if style.multiline ∧ endsLine cs then readBody style label fuel (swallow cs)
      else do
        let (e, rest) ← readEscape cs
        let (tail, rest) ← readBody style label fuel rest
        return (e :: tail, rest)
    else if style.multiline ∧ (newline? (c :: cs)).isSome then do
      let (tail, rest) ← readBody style label fuel ((newline? (c :: cs)).getD [])
      return ('\n' :: tail, rest)
    else if isBareControl c then .error (.atNext (some label) [] (c :: cs))
    else do
      let (tail, rest) ← readBody style label fuel cs
      return (c :: tail, rest)

/-- The opening marks of a quoted text. -/
def opening? : List Char → Option (Style × List Char)
  | '"' :: '"' :: '"' :: rest => some (⟨true, true⟩, rest)
  | '\'' :: '\'' :: '\'' :: rest => some (⟨false, true⟩, rest)
  | '"' :: rest => some (⟨true, false⟩, rest)
  | '\'' :: rest => some (⟨false, false⟩, rest)
  | _ => none

def Style.label (s : Style) : String :=
  (if s.multiline then "multiline " else "") ++ (if s.escapes then "basic" else "literal") ++
    " string"

/-- A quoted text whose opening marks have been taken. A line break right behind the marks of
several lines is dropped. -/
def readQuoted (style : Style) (cs : List Char) : Except Fault (String × List Char) := do
  let cs := if style.multiline then (newline? cs).getD cs else cs
  let (body, rest) ← readBody style style.label (cs.length + 1) cs
  return (String.ofList body, rest)

end FeedExplorer.Toml
