import FeedExplorer.Text.Hex
import FeedExplorer.Text.Property.GraphemeExtend
import FeedExplorer.Text.Property.Unprintable

/-!
# Quoted texts

A text between double quotes in which nothing can be mistaken: quotes and backslashes carry a
backslash, and marks and unprintable characters are given by number.
-/

namespace FeedExplorer.Text

/-- The number of a character between the braces of an escape. -/
def codeEscape (c : Char) : List Char :=
  '\\' :: 'u' :: '\x7b' :: (hexChars c.toNat ++ ['\x7d'])

/-- The written form of a character inside quotes. A single quote is escaped on demand. -/
def quoteChar (single : Bool) (c : Char) : List Char :=
  if c = '\x00' then ['\\', '0']
  else if c = '\t' then ['\\', 't']
  else if c = '\r' then ['\\', 'r']
  else if c = '\n' then ['\\', 'n']
  else if c = '\\' then ['\\', '\\']
  else if c = '"' then ['\\', '"']
  else if c = '\'' ∧ single then ['\\', '\'']
  else if c.toNat < 127 ∧ 32 ≤ c.toNat then [c]
  else if isGraphemeExtend c || isUnprintable c then codeEscape c
  else [c]

def quoteWith (single : Bool) (s : String) : String :=
  String.ofList ('"' :: (s.toList.flatMap (quoteChar single) ++ ['"']))

/-- A text in quotes. -/
def quoted (s : String) : String :=
  quoteWith false s

/-- A path in quotes, where a single quote is escaped too. -/
def quotedPath (s : String) : String :=
  quoteWith true s

end FeedExplorer.Text
