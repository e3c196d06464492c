import FeedExplorer.Toml.Number
import FeedExplorer.Toml.Text

/-!
# Reading settings texts

A settings text is a list of lines: entries `key = value`, headers of tables, and headers of
repeated tables. What was read before a fault is kept, since an earlier line may be at odds with
the others.
-/

namespace FeedExplorer.Toml

/-- One line of a settings text. Places count the characters that stand behind them. -/
inductive Item where
  | entry (path : List String) (value : Value) (start valueStart valueWidth : Nat)
  | header (path : List String) (start width : Nat)
  | repeated (path : List String) (start width : Nat)

/-- Spaces and tabs. -/
def isSpace (c : Char) : Bool :=
  c == ' ' || c == '\t'

def skipSpaces (cs : List Char) : List Char :=
  cs.dropWhile isSpace

/-- A letter of a key without quotes. -/
def isKeyChar (c : Char) : Bool :=
  c.isAlphanum || c == '-' || c == '_'

/-- What follows the mark of a comment, up to the end of the line. -/
def skipComment (cs : List Char) : List Char :=
  cs.dropWhile fun c => !isBareControl c

/-- One part of a key. -/
def readKeyPart (cs : List Char) : Except Fault (String × List Char) :=
  match cs with
  | '"' :: rest => readQuoted ⟨true, false⟩ rest
  | '\'' :: rest => readQuoted ⟨false, false⟩ rest
  | _ =>
    let (name, rest) := cs.span isKeyChar
    if name.isEmpty then .error (.atNext (some "key") [] cs)
    else .ok (String.ofList name, rest)

/-- How deep lists and tables may be nested, and how many parts a key may have. -/
def maxDepth : Nat := 79

/-- The parts of a key, with points between them. The first argument bounds their number. -/
def readKeyParts : Nat → List Char → Except Fault (List String × List Char)
  | 0, cs => .error (.atNext (some "key") [] cs)
  | fuel + 1, cs => do
    let (part, rest) ← readKeyPart (skipSpaces cs)
    match skipSpaces rest with
    | '.' :: rest => do
      let (parts, rest) ← readKeyParts fuel rest
      return (part :: parts, rest)
    | rest => return ([part], rest)

/-- A key with all its parts. -/
def readKey (cs : List Char) : Except Fault (List String × List Char) := do
  let (path, rest) ← readKeyParts (cs.length + 1) cs
  if maxDepth < path.length then throw (.tooDeep cs) else return (path, rest)

/-- Spaces, line breaks and comments, which may stand between the items of a list. -/
def skipGaps : Nat → List Char → List Char
  | 0, cs => cs
  | fuel + 1, cs =>
    match skipSpaces cs with
    | '#' :: rest => skipGaps fuel (skipComment rest)
    | rest =>
      match newline? rest with
      | some rest => skipGaps fuel rest
      | none => rest

/-- What may stand at the start of a text in quotes. -/
def quoteMarks : List String :=
  ["`\"`", "`'`"]

/-- A word that stands for a value. -/
def readWord (word : String) (value : Value) (cs : List Char) :
    Except Fault (Value × List Char) :=
  if word.toList.isPrefixOf cs then .ok (value, cs.drop word.length)
  else .error (.atNext (some "string") quoteMarks cs)

/-- Puts an entry of an inline table at its place; `none` when its key is taken. -/
def putInline : List String → Value → List (String × Value) → Option (List (String × Value))
  | [], _, entries => some entries
  | [key], value, entries =>
    if entries.any (·.1 == key) then none else some (entries ++ [(key, value)])
  | key :: more, value, entries =>
    match entries.lookup key with
    | none => do some (entries ++ [(key, .table (← putInline more value []))])
    | some (.table inner) => do
      let inner ← putInline more value inner
      some (entries.map fun (k, v) => if k == key then (k, .table inner) else (k, v))
    | some _ => none

mutual

/-- A value. The first argument bounds the number of steps, the second the depth of nesting. -/
def readValue : Nat → Nat → List Char → Except Fault (Value × List Char)
  | 0, _, cs => .error (.tooDeep cs)
  | fuel + 1, depth, cs =>
    match opening? cs with
    | some (style, rest) => do
      let (s, rest) ← readQuoted style rest
      return (.str s, rest)
    | none =>
      match cs with
      | '[' :: rest =>
        match depth with
        | 0 => .error (.tooDeep cs)
        | depth + 1 => do
          let (items, rest) ← readItems fuel depth rest
          return (.arr items, rest)
      | '\x7b' :: rest =>
        match depth with
        | 0 => .error (.tooDeep cs)
        | depth + 1 =>
          match skipSpaces rest with
          | '\x7d' :: rest => .ok (.table [], rest)
          | rest => do
            let (entries, rest) ← readEntries fuel depth [] rest
            return (.table entries, rest)
      | 't' :: _ => readWord "true" (.bool true) cs
      | 'f' :: _ => readWord "false" (.bool false) cs
      | 'i' :: _ => readWord "inf" (.real (infinity false)) cs
      | 'n' :: _ => readWord "nan" (.real (notANumber false)) cs
      | '_' :: _ => .error (.atNext (some "integer") ["leading digit"] cs)
      | '.' :: _ => .error (.atNext (some "floating-point number") ["leading digit"] cs)
      | c :: _ =>
        if c.isDigit ∨ c = '+' ∨ c = '-' then readNumber cs
        else .error (.atNext (some "string") quoteMarks cs)
      | [] => .error (.atNext (some "string") quoteMarks [])

/-- The items of a list up to its closing bracket; a comma may stand behind the last. -/
def readItems : Nat → Nat → List Char → Except Fault (List Value × List Char)
  | 0, _, cs => .error (.tooDeep cs)
  | fuel + 1, depth, cs =>
    match skipGaps (cs.length + 1) cs with
    | ']' :: rest => .ok ([], rest)
    | place => do
      let (item, rest) ← readValue fuel depth place
      match skipGaps (rest.length + 1) rest with
      | ',' :: rest => do
        let (items, rest) ← readItems fuel depth rest
        return (item :: items, rest)
      | ']' :: rest => return ([item], rest)
      | rest => throw (.atNext (some "array") ["`]`"] rest)

/-- The entries of an inline table up to its closing brace. -/
def readEntries : Nat → Nat → List (String × Value) → List Char →
    Except Fault (List (String × Value) × List Char)
  | 0, _, _, cs => .error (.tooDeep cs)
  | fuel + 1, depth, done, cs => do
    let (path, rest) ← readKey cs
    match rest with
    | '=' :: rest => do
      let (value, rest) ← readValue fuel depth (skipSpaces rest)
      match putInline path value done with
      | none => throw ⟨"duplicate key `" ++ (path.getLast?.getD "") ++ "`", cs.length, 1⟩
      | some done =>
        match skipSpaces rest with
        | ',' :: rest => readEntries fuel depth done rest
        | '\x7d' :: rest => return (done, rest)
        | rest => throw (.atNext (some "inline table") ["`\x7d`"] rest)
    | rest => throw (.atNext (some "inline table") ["`.`", "`=`"] rest)

end

/-- A comment or nothing up to the end of the line. -/
def readLineEnd (label : Option String) (cs : List Char) : Except Fault (List Char) :=
  let rest := match skipSpaces cs with
    | '#' :: rest => skipComment rest
    | rest => rest
  match rest with
  | [] => .ok []
  | _ =>
    match newline? rest with
    | some rest => .ok rest
    | none => .error (.atNext label ["newline", "`#`"] rest)

/-- The name of a table inside its brackets. -/
def readHeader (twice : Bool) (start cs : List Char) : Except Fault (Item × List Char) := do
  let (path, rest) ← readKey cs
  let rest ←
    match twice, rest with
    | true, ']' :: ']' :: rest => pure rest
    | true, _ => throw (.atNext (some "table header") ["`.`", "`]]`"] rest)
    | false, ']' :: rest => pure rest
    | false, _ => throw (.atNext (some "table header") ["`.`", "`]`"] rest)
  let width := Json.byteCount (start.take (start.length - rest.length))
  let after ← readLineEnd (some "table header") rest
  return (if twice then .repeated path start.length width else .header path start.length width,
    after)

/-- A key, its value, and the end of the line. -/
def readEntry (cs : List Char) : Except Fault (Item × List Char) := do
  let (path, rest) ← readKey cs
  match rest with
  | '=' :: rest => do
    let place := skipSpaces rest
    let (value, rest) ← readValue (2 * place.length + 2) maxDepth place
    let width := Json.byteCount (place.take (place.length - rest.length))
    let after ← readLineEnd none rest
    return (.entry path value cs.length place.length width, after)
  | rest => throw (.atNext none ["`.`", "`=`"] rest)

/-- The line at the front of a text, if it is not blank. -/
def readLine (cs : List Char) : Except Fault (Option Item × List Char) :=
  match cs with
  | '#' :: _ => do return (none, ← readLineEnd none cs)
  | '[' :: '[' :: rest => do
    let (item, rest) ← readHeader true cs rest
    return (some item, rest)
  | '[' :: rest => do
    let (item, rest) ← readHeader false cs rest
    return (some item, rest)
  | _ =>
    match newline? cs with
    | some rest => .ok (none, rest)
    | none => do
      let (item, rest) ← readEntry cs
      return (some item, rest)

/-- All lines, as far as they can be read, and the fault that stopped the reading. -/
def readLines : Nat → List Char → List Item × Option Fault
  | 0, _ => ([], none)
  | fuel + 1, cs =>
    match skipSpaces cs with
    | [] => ([], none)
    | cs =>
      match readLine cs with
      | .error fault => ([], some fault)
      | .ok (item, rest) =>
        let (items, fault) := readLines fuel rest
        (item.toList ++ items, fault)

/-- The lines of a text behind its byte order mark. -/
def readItemsOf (cs : List Char) : List Item × Option Fault :=
  match cs with
  | '\uFEFF' :: rest => readLines (rest.length + 1) rest
  | _ => readLines (cs.length + 1) cs

end FeedExplorer.Toml
