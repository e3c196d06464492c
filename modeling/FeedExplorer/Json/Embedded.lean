import FeedExplorer.Json.Mismatch
import FeedExplorer.Json.Reader

/-!
# Embedded texts

An object whose first member stands under a certain key stands for another value: the one whose
text is the string under this key, and nothing may stand beside it. The plain reader knows nothing
of this; the reader here puts the values in the places of such objects.
-/

namespace FeedExplorer.Json

/-- A complaint about a value that ends where `rest` begins. -/
def complain (text : String) (rest : List Char) : Fault :=
  .behind (.mismatch text) rest

/-- Refuses the value in front, whatever it is. A container is not entered. -/
def refuse (expected : String) (cs : List Char) : Fault :=
  match skipGap cs with
  | '[' :: rest => complain (Mismatch.message (.wrongType (.arr []) expected)) ('[' :: rest)
  | '\x7b' :: rest => complain (Mismatch.message (.wrongType (.obj []) expected)) ('\x7b' :: rest)
  | cs =>
    match readValue 1 0 cs with
    | .ok (v, rest) => complain (Mismatch.message (.wrongType v expected)) rest
    | .error fault => fault

/-- A string; any other value is refused. -/
def readText (expected : String) (cs : List Char) : Except Fault (String × List Char) :=
  match skipGap cs with
  | [] => .error (.atNext .endInValue [])
  | '"' :: rest => readString rest
  | cs => .error (refuse expected cs)

/-- The key of an embedded text. -/
def embeddedKey : String := "$serde_json::private::RawValue"

/-- The rest behind the first key of an object, if it is that of an embedded text. -/
def pastEmbeddedKey (cs : List Char) : Option (List Char) :=
  match nextMember true cs with
  | .ok (some place) =>
    match readKey place with
    | .ok (key, rest) => if key = embeddedKey then some rest else none
    | .error _ => none
  | _ => none

/-- The end of an object that may have no further member. -/
def readObjectEnd (cs : List Char) : Except Fault (List Char) :=
  match skipGap cs with
  | [] => .error (.atNext .endInObject [])
  | '\x7d' :: rest => .ok rest
  | ',' :: rest => .error (.atNext .trailingComma (',' :: rest))
  | rest => .error (.atNext .trailingCharacters rest)

section opened

variable (inner : String → Except String Json)

/-- The value of an embedded text whose key has been taken, and the end of its object. -/
def readEmbedded (cs : List Char) : Except Fault (Json × List Char) := do
  let (text, rest) ← readText "raw value" (← readColon cs)
  match inner text with
  | .ok v => return (v, ← readObjectEnd rest)
  | .error words => throw (.behind (.embedded words) rest)

mutual

/-- A value with all embedded texts opened, given how such a text is read. The first argument
bounds the number of steps, the second the depth of nesting. -/
def readOpened : Nat → Nat → List Char → Except Fault (Json × List Char)
  | 0, _, cs => .error (.atNext .tooDeep cs)
  | fuel + 1, depth, cs =>
    match skipGap cs with
    | '[' :: rest =>
      match depth with
      | 0 => .error (.atNext .tooDeep ('[' :: rest))
      | depth + 1 => do
        let (items, rest) ← readOpenedItems fuel depth true rest
        return (.arr items, rest)
    | '\x7b' :: rest =>
      match depth with
      | 0 => .error (.atNext .tooDeep ('\x7b' :: rest))
      | depth + 1 =>
        match pastEmbeddedKey rest with
        | some rest => readEmbedded inner rest
        | none => do
          let (members, rest) ← readOpenedMembers fuel depth true rest
          return (.obj members, rest)
    | _ => readValue 1 0 cs

/-- The items of a list up to its closing bracket. -/
def readOpenedItems : Nat → Nat → Bool → List Char → Except Fault (List Json × List Char)
  | 0, _, _, cs => .error (.atNext .tooDeep cs)
  | fuel + 1, depth, first, cs => do
    match ← nextItem first cs with
    | none => return ([], dropToken cs)
    | some cs =>
      let (item, rest) ← readOpened fuel depth cs
      let (items, rest) ← readOpenedItems fuel depth false rest
      return (item :: items, rest)

/-- The members of an object up to its closing brace. -/
def readOpenedMembers : Nat → Nat → Bool → List Char →
    Except Fault (List (String × Json) × List Char)
  | 0, _, _, cs => .error (.atNext .tooDeep cs)
  | fuel + 1, depth, first, cs => do
    match ← nextMember first cs with
    | none => return ([], dropToken cs)
    | some cs =>
      let (key, rest) ← readKey cs
      let rest ← readColon rest
      let (value, rest) ← readOpened fuel depth rest
      let (members, rest) ← readOpenedMembers fuel depth false rest
      return ((key, value) :: members, rest)

end

end opened

/-- The value of a text in which texts are embedded in one another less than `nesting` deep. -/
def parseNested : Nat → String → Except Fault Json
  | 0, text => .error (.behind .tooDeep text.toList)
  | nesting + 1, text => do
    let inner := fun s => (parseNested nesting s).mapError (·.message s.toList)
    let (v, rest) ← readOpened inner (stepsFor text.toList) maxDepth text.toList
    readEnd rest
    return v

/-- The value that the whole text stands for, embedded texts having been opened. Every one of them
is shorter than the text around it. -/
def parseOpened (text : String) : Except Fault Json :=
  parseNested (text.length + 1) text

end FeedExplorer.Json
