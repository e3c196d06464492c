import FeedExplorer.Json.Reader

/-!
# Skipping values

Finding the end of a value without reading it. Texts are looked at less closely than in reading:
numbers may be of any size, halves of character pairs may stand alone, and nesting has no bound.
-/

namespace FeedExplorer.Json

/-- The rest behind a string whose opening quote has been taken. -/
def skipString : Nat → List Char → Except Fault (List Char)
  | 0, cs => .error (.behind .endInString cs)
  | _ + 1, [] => .error (.behind .endInString [])
  | fuel + 1, c :: cs =>
    if c = '"' then .ok cs
    else if c = '\\' then
      match cs with
      | 'u' :: rest => do
        let (_, rest) ← readHex rest
        skipString fuel rest
      | cs => do
        let (_, rest) ← readEscape cs
        skipString fuel rest
    else if c.toNat < 32 then .error (.behind .controlCharacter cs)
    else skipString fuel cs

/-- The rest behind the digits of an exponent. -/
def skipExponent (cs : List Char) : Except Fault (List Char) :=
  let cs := match cs with
    | '+' :: rest => rest
    | '-' :: rest => rest
    | rest => rest
  match cs with
  | [] => .error (.behind .endInValue [])
  | c :: rest =>
    if c.isDigit then .ok (rest.dropWhile Char.isDigit)
    else .error ⟨.invalidNumber, byteCount (c :: rest) - 1, false⟩

/-- The rest behind a number whose digits before the point have been taken. -/
def skipFraction : List Char → Except Fault (List Char)
  | '.' :: rest =>
    match rest with
    | [] => .error (.atNext .endInValue [])
    | c :: more =>
      if c.isDigit then
        match more.dropWhile Char.isDigit with
        | 'e' :: rest => skipExponent rest
        | 'E' :: rest => skipExponent rest
        | rest => .ok rest
      else .error (.atNext .invalidNumber (c :: more))
  | 'e' :: rest => skipExponent rest
  | 'E' :: rest => skipExponent rest
  | rest => .ok rest

/-- The rest behind a number whose sign has been taken. -/
def skipNumber : List Char → Except Fault (List Char)
  | [] => .error (.behind .endInValue [])
  | '0' :: rest =>
    match rest with
    | c :: _ => if c.isDigit then .error (.atNext .invalidNumber rest) else skipFraction rest
    | [] => .ok []
  | c :: rest =>
    if c.isDigit then skipFraction (rest.dropWhile Char.isDigit)
    else .error ⟨.invalidNumber, byteCount (c :: rest) - 1, false⟩

/-- The two kinds of containers. -/
inductive Bracket where
  | list
  | object
  deriving DecidableEq, Repr

/-- Closes brackets and takes a comma: the place of the next value with the brackets around it, or
the rest when all are closed. `comma` tells that a comma may come. -/
def closeBrackets : Nat → Bool → List Bracket → List Char →
    Except Fault (List Bracket × List Char)
  | 0, _, open_, cs => .ok (open_, cs)
  | _ + 1, _, [], cs => .ok ([], cs)
  | fuel + 1, comma, b :: outer, cs =>
    match skipGap cs, b with
    | [], .list => .error (.atNext .endInList [])
    | [], .object => .error (.atNext .endInObject [])
    | ']' :: rest, .list => closeBrackets fuel true outer rest
    | '\x7d' :: rest, .object => closeBrackets fuel true outer rest
    | c :: rest, b =>
      if comma ∧ c = ',' then .ok (b :: outer, rest)
      else if comma then
        .error (.atNext (if b = .list then .expectedListCommaOrEnd else .expectedObjectCommaOrEnd)
          (c :: rest))
      else .ok (b :: outer, c :: rest)

/-- Takes a key and its colon when the innermost bracket is that of an object. -/
def skipKey : List Bracket → List Char → Except Fault (List Char)
  | .object :: _, cs =>
    match skipGap cs with
    | [] => .error (.atNext .endInObject [])
    | '"' :: rest => do
      let rest ← skipString (rest.length + 1) rest
      readColon rest
    | rest => .error (.atNext .keyNotString rest)
  | _, cs => .ok cs

/-- The rest behind a value inside some brackets, and behind all of them. -/
def skipFrom : Nat → List Bracket → List Char → Except Fault (List Char)
  | 0, _, cs => .ok cs
  | fuel + 1, open_, cs => do
    let cs := skipGap cs
    let (opened, rest) ← match cs with
      | [] => throw (.atNext .endInValue [])
      | 'n' :: rest => pure (none, ← readWord ['u', 'l', 'l'] rest)
      | 't' :: rest => pure (none, ← readWord ['r', 'u', 'e'] rest)
      | 'f' :: rest => pure (none, ← readWord ['a', 'l', 's', 'e'] rest)
      | '-' :: rest => pure (none, ← skipNumber rest)
      | '"' :: rest => pure (none, ← skipString (rest.length + 1) rest)
      | '[' :: rest => pure (some Bracket.list, rest)
      | '\x7b' :: rest => pure (some .object, rest)
      | c :: rest =>
        if c.isDigit then pure (none, ← skipNumber (c :: rest))
        else throw (.atNext .expectedValue (c :: rest))
    let (open_, rest) ← closeBrackets (rest.length + open_.length + 2) opened.isNone
      (opened.toList ++ open_) rest
    if open_.isEmpty then return rest
    else skipFrom fuel open_ (← skipKey open_ rest)

/-- The rest behind a value. -/
def skipValue (cs : List Char) : Except Fault (List Char) :=
  skipFrom (cs.length + 1) [] cs

/-- The text of the value at the front, a gap before it left out, and the rest. -/
def takeRaw (cs : List Char) : Except Fault (List Char × List Char) := do
  let cs := skipGap cs
  let rest ← skipValue cs
  return (cs.take (cs.length - rest.length), rest)

end FeedExplorer.Json
