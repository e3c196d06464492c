import FeedExplorer.Text.Hex

/-!
# Percent coding

Characters of an address that cannot stand for themselves, written as their bytes in hexadecimal
behind percent signs.
-/

namespace FeedExplorer.Url

/-- Which characters of the ASCII range are written as bytes. -/
abbrev EscapeSet := Char → Bool

def controlSet : EscapeSet := fun c =>
  c.toNat < 0x20 || c.toNat == 0x7F

/-- Adds some characters to a set. -/
def EscapeSet.with (set : EscapeSet) (more : String) : EscapeSet := fun c =>
  set c || more.toList.contains c

def fragmentSet : EscapeSet := controlSet.with " \"<>`"

def pathSet : EscapeSet := fragmentSet.with "#?\x7b\x7d"

def userinfoSet : EscapeSet := pathSet.with "/:;=@[\\]^|"

def querySet : EscapeSet := controlSet.with " \"#<>"

def specialQuerySet : EscapeSet := querySet.with "'"

/-- A byte behind a percent sign. -/
def escapeByte (b : UInt8) : List Char :=
  '%' :: Text.hexFixedUpper 2 b.toNat

def escapeChar (set : EscapeSet) (c : Char) : List Char :=
  if c.toNat < 0x80 ∧ ¬ set c then [c]
  else (String.singleton c).toUTF8.toList.flatMap escapeByte

def escape (set : EscapeSet) (cs : List Char) : List Char :=
  cs.flatMap (escapeChar set)

/-- The bytes of a text in which percent signs stand before two digits of a byte. A sign that
does not stays as it is. -/
def unescape : List UInt8 → List UInt8
  | [] => []
  | [b] => [b]
  | [a, b] => [a, b]
  | p :: a :: b :: rest =>
    if p = 37 then
      match Text.hexValue? (Char.ofNat a.toNat), Text.hexValue? (Char.ofNat b.toNat) with
      | some high, some low => UInt8.ofNat (16 * high + low) :: unescape rest
      | _, _ => p :: unescape (a :: b :: rest)
    else p :: unescape (a :: b :: rest)

end FeedExplorer.Url
