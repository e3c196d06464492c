import FeedExplorer.Json.Fault
import FeedExplorer.Json.Value
import FeedExplorer.Number.Word

/-!
# Reading data texts

A reader of values over a list of characters. Every reader gives back what it read and the rest
of the text. Containers may be nested to a depth of 127.
-/

namespace FeedExplorer.Json

/-- The four characters that may stand between tokens. -/
def isGap (c : Char) : Bool :=
  c == ' ' || c == '\n' || c == '\t' || c == '\r'

def skipGap (cs : List Char) : List Char :=
  cs.dropWhile isGap

/-- Takes the letters of a word one by one. -/
def readWord : List Char → List Char → Except Fault (List Char)
  | [], cs => .ok cs
  | _ :: _, [] => .error (.behind .endInValue [])
  | w :: ws, c :: cs =>
    if w = c then readWord ws cs else .error (.behind .expectedWord cs)

/-- The value of four hexadecimal digits. -/
def readHex : List Char → Except Fault (Nat × List Char)
  | cs@(a :: b :: c :: d :: rest) =>
    match Text.hexValue? a, Text.hexValue? b, Text.hexValue? c, Text.hexValue? d with
    | some a, some b, some c, some d => .ok (((a * 16 + b) * 16 + c) * 16 + d, rest)
    | _, _, _, _ => .error ⟨.invalidEscape, byteCount cs - 4, false⟩
  | cs =>
    if 4 ≤ byteCount cs then .error ⟨.invalidEscape, byteCount cs - 4, false⟩
    else .error (.behind .endInString [])

/-- A character given by its number; the two halves of a pair stand behind one another. -/
def readCodeEscape (cs : List Char) : Except Fault (Char × List Char) := do
  let (n, rest) ← readHex cs
  if 0xDC00 ≤ n ∧ n ≤ 0xDFFF then throw (.behind .loneSurrogate rest)
  else if n < 0xD800 ∨ 0xDBFF < n then return (Char.ofNat n, rest)
  else
    match rest with
    | [] => throw (.behind .endInString [])
    | '\\' :: [] => throw (.behind .endInString [])
    | '\\' :: 'u' :: rest =>
      let (low, rest) ← readHex rest
      if low < 0xDC00 ∨ 0xDFFF < low then throw (.behind .loneSurrogate rest)
      else return (Char.ofNat (0x10000 + (n - 0xD800) * 1024 + (low - 0xDC00)), rest)
    | '\\' :: rest => throw ⟨.endOfHexEscape, byteCount rest - 1, false⟩
    | rest => throw ⟨.endOfHexEscape, byteCount rest - 1, false⟩

/-- The character that an escape stands for, the backslash having been taken. -/
def readEscape : List Char → Except Fault (Char × List Char)
  | [] => .error (.behind .endInString [])
  | '"' :: rest => .ok ('"', rest)
  | '\\' :: rest => .ok ('\\', rest)
  | '/' :: rest => .ok ('/', rest)
  | 'b' :: rest => .ok ('\x08', rest)
  | 'f' :: rest => .ok ('\x0c', rest)
  | 'n' :: rest => .ok ('\n', rest)
  | 'r' :: rest => .ok ('\r', rest)
  | 't' :: rest => .ok ('\t', rest)
  | 'u' :: rest => readCodeEscape rest
  | cs@(_ :: _) => .error ⟨.invalidEscape, byteCount cs - 1, false⟩

/-- The characters of a string up to its closing quote. The first argument bounds the number of
steps; the length of the text is enough. -/
def readStringBody : Nat → List Char → Except Fault (List Char × List Char)
  | 0, cs => .error (.behind .endInString cs)
  | _ + 1, [] => .error (.behind .endInString [])
  | fuel + 1, c :: cs =>
    if c = '"' then .ok ([], cs)
    else if c = '\\' then do
      let (e, rest) ← readEscape cs
      let (tail, rest) ← readStringBody fuel rest
      return (e :: tail, rest)
    else if c.toNat < 32 then .error (.behind .controlCharacter cs)
    else do
      let (tail, rest) ← readStringBody fuel cs
      return (c :: tail, rest)

/-- A string whose opening quote has been taken. -/
def readString (cs : List Char) : Except Fault (String × List Char) := do
  let (body, rest) ← readStringBody (cs.length + 1) cs
  return (String.ofList body, rest)

/-- The value of decimal digits. -/
def natOfDigits (ds : List Char) : Nat :=
  ds.foldl (fun n d => 10 * n + (d.toNat - 48)) 0

/-- The digits at the front, and the rest. -/
def spanDigits (cs : List Char) : List Char × List Char :=
  cs.span Char.isDigit

/-- Takes the digits of an exponent; it stops behind the digit that passes `2 ^ 31 - 1`. -/
def readExponentDigits (n : Nat) : List Char → Nat × Bool × List Char
  | [] => (n, false, [])
  | c :: cs =>
    if c.isDigit then
      let n := 10 * n + (c.toNat - 48)
      if 2147483648 ≤ n then (n, true, cs) else readExponentDigits n cs
    else (n, false, c :: cs)

/-- The double of some digits, scaled; the rest is where the number ends. -/
def readReal (negative : Bool) (digits : Nat) (scale : Int) (rest : List Char) :
    Except Fault (Json × List Char) :=
  match Binary64.ofDecimal? negative digits scale with
  | some x => .ok (.real x, rest)
  | none => .error (.behind .numberOutOfRange rest)

/-- The exponent behind its mark, for a number with the given digits and scale. -/
def readExponent (negative : Bool) (digits : Nat) (scale : Int) (cs : List Char) :
    Except Fault (Json × List Char) :=
  let (down, cs) :=
    match cs with
    | '+' :: rest => (false, rest)
    | '-' :: rest => (true, rest)
    | rest => (false, rest)
  match cs with
  | [] => .error (.behind .endInValue [])
  | c :: rest =>
    if c.isDigit then
      let (e, huge, rest') := readExponentDigits 0 cs
      if huge then
        if digits ≠ 0 ∧ ¬ down then .error (.behind .numberOutOfRange rest')
        else .ok (.real (Binary64.zero negative), rest'.dropWhile Char.isDigit)
      else readReal negative digits (if down then scale - e else scale + e) rest'
    else .error ⟨.invalidNumber, byteCount (c :: rest) - 1, false⟩

/-- An exponent, if its mark comes next. -/
def readScale (negative : Bool) (digits : Nat) (scale : Int) :
    List Char → Except Fault (Json × List Char)
  | 'e' :: rest => readExponent negative digits scale rest
  | 'E' :: rest => readExponent negative digits scale rest
  | rest => readReal negative digits scale rest

/-- A number without fraction and exponent: an integer if it fits, else a double. Minus zero
is a double. -/
def integerValue (negative : Bool) (n : Nat) : Json :=
  if negative then
    if n = 0 ∨ Number.signedLimit < n then .real (Binary64.ofDecimal? true n 0 |>.getD (.zero true))
    else .int (-n)
  else if n < Number.wordLimit then .int n
  else .real (Binary64.ofDecimal? false n 0 |>.getD (.zero false))

/-- What may follow the digits before the point. -/
def readFraction (negative : Bool) (whole : List Char) :
    List Char → Except Fault (Json × List Char)
  | '.' :: rest =>
    let (fraction, rest) := spanDigits rest
    if fraction.isEmpty then
      match rest with
      | [] => .error (.atNext .endInValue [])
      | rest => .error (.atNext .invalidNumber rest)
    else readScale negative (natOfDigits (whole ++ fraction)) (-fraction.length) rest
  | 'e' :: rest => readExponent negative (natOfDigits whole) 0 rest
  | 'E' :: rest => readExponent negative (natOfDigits whole) 0 rest
  | rest =>
    let n := natOfDigits whole
    if Number.wordLimit ≤ n then readReal negative n 0 rest else .ok (integerValue negative n, rest)

/-- A number whose sign has been taken. -/
def readNumber (negative : Bool) : List Char → Except Fault (Json × List Char)
  | [] => .error (.behind .endInValue [])
  | '0' :: rest =>
    match rest with
    | c :: _ =>
      if c.isDigit then .error (.atNext .invalidNumber rest)
      else readFraction negative ['0'] rest
    | [] => readFraction negative ['0'] []
  | cs@(c :: _) =>
    if c.isDigit then
      let (whole, rest) := spanDigits cs
      readFraction negative whole rest
    else .error ⟨.invalidNumber, byteCount cs - 1, false⟩

/-- The quote of a key, a gap before it having been skipped. -/
def readKey : List Char → Except Fault (String × List Char)
  | '"' :: rest => readString rest
  | cs => .error (.atNext .keyNotString cs)

/-- The colon behind a key. -/
def readColon (cs : List Char) : Except Fault (List Char) :=
  match skipGap cs with
  | [] => .error (.atNext .endInObject [])
  | ':' :: rest => .ok rest
  | cs => .error (.atNext .expectedColon cs)

/-- The place of the next item of a list, or `none` at its end. -/
def nextItem (first : Bool) (cs : List Char) : Except Fault (Option (List Char)) :=
  match skipGap cs with
  | [] => .error (.atNext .endInList [])
  | ']' :: _ => .ok none
  | ',' :: rest =>
    if first then .ok (some (',' :: rest))
    else
      match skipGap rest with
      | [] => .error (.atNext .endInValue [])
      | ']' :: rest => .error (.atNext .trailingComma (']' :: rest))
      | rest => .ok (some rest)
  | rest => if first then .ok (some rest) else .error (.atNext .expectedListCommaOrEnd rest)

/-- The place of the next key of an object, or `none` at its end. -/
def nextMember (first : Bool) (cs : List Char) : Except Fault (Option (List Char)) :=
  match skipGap cs with
  | [] => .error (.atNext .endInObject [])
  | '\x7d' :: _ => .ok none
  | ',' :: rest =>
    if first then .ok (some (',' :: rest))
    else
      match skipGap rest with
      | [] => .error (.atNext .endInValue [])
      | '\x7d' :: rest => .error (.atNext .trailingComma ('\x7d' :: rest))
      | rest => .ok (some rest)
  | rest => if first then .ok (some rest) else .error (.atNext .expectedObjectCommaOrEnd rest)

/-- The text without the gap and the one character at its front. -/
def dropToken (cs : List Char) : List Char :=
  (skipGap cs).drop 1

mutual

/-- A value. The first argument bounds the number of steps, the second the depth of nesting. -/
def readValue : Nat → Nat → List Char → Except Fault (Json × List Char)
  | 0, _, cs => .error (.atNext .tooDeep cs)
  | fuel + 1, depth, cs =>
    match skipGap cs with
    | [] => .error (.atNext .endInValue [])
    | 'n' :: rest => do return (.null, ← readWord ['u', 'l', 'l'] rest)
    | 't' :: rest => do return (.bool true, ← readWord ['r', 'u', 'e'] rest)
    | 'f' :: rest => do return (.bool false, ← readWord ['a', 'l', 's', 'e'] rest)
    | '-' :: rest => readNumber true rest
    | '"' :: rest => do
      let (s, rest) ← readString rest
      return (.str s, rest)
    | '[' :: rest =>
      match depth with
      | 0 => .error (.atNext .tooDeep ('[' :: rest))
      | depth + 1 => do
        let (items, rest) ← readItems fuel depth true rest
        return (.arr items, rest)
    | '\x7b' :: rest =>
      match depth with
      | 0 => .error (.atNext .tooDeep ('\x7b' :: rest))
      | depth + 1 => do
        let (members, rest) ← readMembers fuel depth true rest
        return (.obj members, rest)
    | c :: rest =>
      if c.isDigit then readNumber false (c :: rest)
      else .error (.atNext .expectedValue (c :: rest))

/-- The items of a list up to its closing bracket. -/
def readItems : Nat → Nat → Bool → List Char → Except Fault (List Json × List Char)
  | 0, _, _, cs => .error (.atNext .tooDeep cs)
  | fuel + 1, depth, first, cs => do
    match ← nextItem first cs with
    | none => return ([], dropToken cs)
    | some cs =>
      let (item, rest) ← readValue fuel depth cs
      let (items, rest) ← readItems fuel depth false rest
      return (item :: items, rest)

/-- The members of an object up to its closing brace. -/
def readMembers : Nat → Nat → Bool → List Char → Except Fault (List (String × Json) × List Char)
  | 0, _, _, cs => .error (.atNext .tooDeep cs)
  | fuel + 1, depth, first, cs => do
    match ← nextMember first cs with
    | none => return ([], dropToken cs)
    | some cs =>
      let (key, rest) ← readKey cs
      let rest ← readColon rest
      let (value, rest) ← readValue fuel depth rest
      let (members, rest) ← readMembers fuel depth false rest
      return ((key, value) :: members, rest)

end

/-- A number of steps that is enough for any text. -/
def stepsFor (cs : List Char) : Nat :=
  2 * cs.length + 2

/-- How deep containers may be nested. -/
def maxDepth : Nat := 127

/-- The value at the front of a text. -/
def readPrefix (cs : List Char) : Except Fault (Json × List Char) :=
  readValue (stepsFor cs) maxDepth cs

/-- Nothing but a gap is left. -/
def readEnd (cs : List Char) : Except Fault Unit :=
  match skipGap cs with
  | [] => .ok ()
  | rest => .error (.atNext .trailingCharacters rest)

/-- The value that the whole text stands for. -/
def parse (text : String) : Except Fault Json := do
  let (v, rest) ← readPrefix text.toList
  readEnd rest
  return v

end FeedExplorer.Json
