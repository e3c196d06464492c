import FeedExplorer.Json.Value

/-!
# Writing data texts

The text of a value without gaps. Members are written in the order in which they stand.
-/

namespace FeedExplorer.Json

/-- The form of a character inside a string. -/
def escapeChar (c : Char) : List Char :=
  if c = '"' then ['\\', '"']
  else if c = '\\' then ['\\', '\\']
  else if c = '\x08' then ['\\', 'b']
  else if c = '\x0c' then ['\\', 'f']
  else if c = '\n' then ['\\', 'n']
  else if c = '\r' then ['\\', 'r']
  else if c = '\t' then ['\\', 't']
  else if c.toNat < 32 then '\\' :: 'u' :: Text.hexFixed 4 c.toNat
  else [c]

/-- A string with its quotes. -/
def stringChars (s : String) : List Char :=
  '"' :: (s.toList.flatMap escapeChar ++ ['"'])

/-- A double; what is not finite has no text but `null`. -/
def realChars (x : Binary64) : List Char :=
  if x.IsFinite then (Number.data x).toList else ['n', 'u', 'l', 'l']

/-- Texts with commas between them. -/
def joinCommas : List (List Char) → List Char
  | [] => []
  | [t] => t
  | t :: rest => t ++ ',' :: joinCommas rest

mutual

/-- The characters of a value's text. -/
def chars : Json → List Char
  | .null => ['n', 'u', 'l', 'l']
  | .bool true => ['t', 'r', 'u', 'e']
  | .bool false => ['f', 'a', 'l', 's', 'e']
  | .int n => (Number.integer n).toList
  | .real x => realChars x
  | .str s => stringChars s
  | .arr items => '[' :: (joinCommas (itemChars items) ++ [']'])
  | .obj members => '\x7b' :: (joinCommas (memberChars members) ++ ['\x7d'])

def itemChars : List Json → List (List Char)
  | [] => []
  | v :: rest => chars v :: itemChars rest

def memberChars : List (String × Json) → List (List Char)
  | [] => []
  | (k, v) :: rest => (stringChars k ++ ':' :: chars v) :: memberChars rest

end

/-- The text of a value. -/
def render (v : Json) : String :=
  String.ofList (chars v)

end FeedExplorer.Json
