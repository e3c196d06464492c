import FeedExplorer.Text.Property.Unprintable
import FeedExplorer.Url.Percent
import FeedExplorer.Url.Punycode

/-!
# Hosts

The name or number of a host in an address, and what makes a text none.
-/

namespace FeedExplorer.Url

/-- Why a text is no address. -/
inductive Fault where
  | emptyHost
  | badName
  | badPort
  | badIpv4
  | badIpv6
  | badCharacter
  | noBase
  | opaqueBase
  deriving DecidableEq, Repr

def Fault.message : Fault → String
  | .emptyHost => "empty host"
  | .badName => "invalid international domain name"
  | .badPort => "invalid port number"
  | .badIpv4 => "invalid IPv4 address"
  | .badIpv6 => "invalid IPv6 address"
  | .badCharacter => "invalid domain character"
  | .noBase => "relative URL without a base"
  | .opaqueBase => "relative URL with a cannot-be-a-base base"

inductive Host where
  | name (text : String)
  | ipv4 (number : Nat)
  | ipv6 (pieces : List Nat)
  deriving DecidableEq, Repr

/-- The parts of a text between marks. -/
def splitAt (mark : Char) : List Char → List (List Char)
  | [] => [[]]
  | c :: cs =>
    if c = mark then [] :: splitAt mark cs
    else
      match splitAt mark cs with
      | part :: rest => (c :: part) :: rest
      | [] => [[c]]

/-- The value of digits of a base. -/
def digitsIn (base : Nat) : Nat → List Char → Option Nat
  | n, [] => some n
  | n, c :: cs =>
    match Text.hexValue? c with
    | some d => if d < base then digitsIn base (base * n + d) cs else none
    | none => none

/-- A number in decimal, octal behind `0` or hexadecimal behind `0x`. -/
def ipv4Number? : List Char → Option Nat
  | [] => none
  | '0' :: 'x' :: rest => digitsIn 16 0 rest
  | '0' :: 'X' :: rest => digitsIn 16 0 rest
  | '0' :: c :: rest => digitsIn 8 0 (c :: rest)
  | cs => digitsIn 10 0 cs

/-- A name whose last part is a number has to be a numeric address. -/
def endsInNumber (cs : List Char) : Bool :=
  let parts := (splitAt '.' cs).reverse
  let last := match parts with
    | [] :: more => more.head?
    | more => more.head?
  match last with
  | none => false
  | some part => (!part.isEmpty && part.all Char.isDigit) || (ipv4Number? part).isSome

/-- Four numbers, or fewer of which the last fills the remaining bytes. -/
def parseIpv4 (cs : List Char) : Except Fault Nat := do
  let parts := splitAt '.' cs
  let parts := if parts.getLast? = some [] then parts.dropLast else parts
  if 4 < parts.length then throw .badIpv4
  match parts.mapM ipv4Number? with
  | none => throw .badIpv4
  | some numbers =>
    let front := numbers.dropLast
    let last := numbers.getLast?.getD 0
    if front.any (255 < ·) ∨ Nat.pow 256 (4 - front.length) ≤ last then throw .badIpv4
    let high := (List.range front.length).foldl
      (fun sum i => sum + (front[i]?.getD 0) * Nat.pow 256 (3 - i)) 0
    return high + last

/-- One to four hexadecimal digits. -/
def ipv6Piece? (cs : List Char) : Option Nat :=
  if cs.isEmpty ∨ 4 < cs.length then none else digitsIn 16 0 cs

/-- A part of a dotted tail: a number below 256 without superfluous zeros. -/
def dottedPart? (cs : List Char) : Option Nat :=
  if cs.isEmpty ∨ (1 < cs.length ∧ cs.head? = some '0') then none
  else
    match digitsIn 10 0 cs with
    | some n => if n < 256 then some n else none
    | none => none

/-- Pieces between colons; the last may be a dotted tail, which makes two. -/
def ipv6Pieces? : List (List Char) → Option (List Nat)
  | [] => some []
  | [last] =>
    if last.contains '.' then
      match (splitAt '.' last).mapM dottedPart? with
      | some [a, b, c, d] => some [256 * a + b, 256 * c + d]
      | _ => none
    else (ipv6Piece? last).map ([·])
  | part :: rest => do
    let n ← ipv6Piece? part
    let more ← ipv6Pieces? rest
    some (n :: more)

/-- Cuts at the first pair of colons. -/
def splitPair : List Char → Option (List Char × List Char)
  | ':' :: ':' :: rest => some ([], rest)
  | c :: rest => (splitPair rest).map fun (a, b) => (c :: a, b)
  | [] => none

/-- Eight pieces; two colons stand for the zeros that are missing. -/
def parseIpv6 (cs : List Char) : Except Fault (List Nat) :=
  let side := fun part : List Char =>
    if part.isEmpty then some [] else ipv6Pieces? (splitAt ':' part)
  let pieces := match splitPair cs with
    | none => (ipv6Pieces? (splitAt ':' cs)).filter (·.length = 8)
    | some (front, back) => do
      if front.contains '.' then none
      let front ← side front
      let back ← side back
      let count := front.length + back.length
      if 7 < count then none else some (front ++ List.replicate (8 - count) 0 ++ back)
  match pieces with
  | some pieces => .ok pieces
  | none => .error .badIpv6

/-- Characters of the ASCII range that no name can hold. -/
def isDenied (c : Char) : Bool :=
  c.toNat ≤ 0x20 || c.toNat == 0x7F || "%#/:<>?@[\\]^|".toList.contains c

/-- The small letter of a capital one of the Latin, Greek and Cyrillic alphabets. -/
def foldCase (c : Char) : Char :=
  let n := c.toNat
  if c.isUpper then c.toLower
  else if (0xC0 ≤ n ∧ n ≤ 0xDE ∧ n ≠ 0xD7) ∨ (0x391 ≤ n ∧ n ≤ 0x3A9) ∨ (0x410 ≤ n ∧ n ≤ 0x42F) then
    Char.ofNat (n + 32)
  else if 0x400 ≤ n ∧ n ≤ 0x40F then Char.ofNat (n + 80)
  -- in the second Latin block each capital letter stands before its small one
  else if ((0x100 ≤ n ∧ n ≤ 0x137) ∨ (0x14A ≤ n ∧ n ≤ 0x177)) ∧ n % 2 = 0 then Char.ofNat (n + 1)
  else if ((0x139 ≤ n ∧ n ≤ 0x148) ∨ (0x179 ≤ n ∧ n ≤ 0x17E)) ∧ n % 2 = 1 then Char.ofNat (n + 1)
  else if n = 0x178 then 'ÿ'
  else if n = 0x17F then 's'
  else c

/-- Soft hyphens, joiners of words and selectors of variants, which do not count in a name. -/
def isIgnored (c : Char) : Bool :=
  let n := c.toNat
  n == 0xAD || n == 0x200B || n == 0x2060 || n == 0xFEFF || (0xFE00 ≤ n && n ≤ 0xFE0F) ||
    (0x180B ≤ n && n ≤ 0x180D)

/-- What a character of a name stands for: a small letter, and for a wide form the plain one. -/
def foldName (c : Char) : List Char :=
  let n := c.toNat
  if isIgnored c then []
  else if n = 0x3002 ∨ n = 0xFF61 then ['.']
  else if 0xFF01 ≤ n ∧ n ≤ 0xFF5E then [foldCase (Char.ofNat (n - 0xFEE0))]
  -- letters of the second Latin block that stand for two characters
  else if n = 0x130 then ['i', '\u0307']
  else if n = 0x132 ∨ n = 0x133 then ['i', 'j']
  else if n = 0x13F ∨ n = 0x140 then ['l', '·']
  else if n = 0x149 then ['ʼ', 'n']
  else [foldCase c]

/-- The characters of a label beyond ASCII can stand in a name. -/
def isNameLabel (label : List Char) : Bool :=
  label.all fun c => c.toNat < 128 || !Text.isUnprintable c

/-- The written form of one label of a name. -/
def asciiLabel (label : List Char) : Except Fault (List Char) :=
  if label.all (·.toNat < 128) then
    if "xn--".toList.isPrefixOf label then
      match Punycode.decode? (label.drop 4) with
      | some inner =>
        if inner.any (128 ≤ ·.toNat) ∧ isNameLabel inner ∧ inner.flatMap foldName = inner ∧
            Punycode.encode inner = label.drop 4 then .ok label
        else .error .badName
      | none => .error .badName
    else .ok label
  else if !isNameLabel label then .error .badName
  else .ok ("xn--".toList ++ Punycode.encode label)

/-- A name in small letters, each label in its written form. -/
def asciiName (cs : List Char) : Except Fault (List Char) := do
  let cs := cs.flatMap foldName
  if cs.any isDenied then throw .badName
  let labels ← (splitAt '.' cs).mapM asciiLabel
  return ['.'].intercalate labels

/-- The inside of square brackets. -/
def bracketed? (cs : List Char) : Option (Except Fault (List Char)) :=
  match cs with
  | '[' :: rest =>
    if rest.getLast? = some ']' then some (.ok rest.dropLast) else some (.error .badIpv6)
  | _ => none

/-- The host of an address of a well-known scheme. -/
def parseHost (cs : List Char) : Except Fault Host :=
  match bracketed? cs with
  | some inner => do return .ipv6 (← parseIpv6 (← inner))
  | none =>
    match String.fromUTF8? (ByteArray.mk (unescape (String.ofList cs).toUTF8.toList).toArray) with
    | none => .error .badName
    | some text => do
      let name ← asciiName text.toList
      if name.isEmpty then throw .emptyHost
      else if endsInNumber name then return .ipv4 (← parseIpv4 name)
      else return .name (String.ofList name)

/-- The host of an address of any other scheme. -/
def parseOpaqueHost (cs : List Char) : Except Fault Host :=
  match bracketed? cs with
  | some inner => do return .ipv6 (← parseIpv6 (← inner))
  | none =>
    if cs.any fun c => "\x00\t\n\r #/:<>?@[\\]^|".toList.contains c then .error .badCharacter
    else .ok (.name (String.ofList (escape controlSet cs)))

/-- Four bytes with points between them. -/
def ipv4Text (n : Nat) : String :=
  s!"{n / 16777216}.{n / 65536 % 256}.{n / 256 % 256}.{n % 256}"

/-- How many zeros stand in front. -/
def zerosInFront (ns : List Nat) : Nat :=
  (ns.takeWhile (· = 0)).length

/-- The place and length of the longest run of at least two zeros. -/
def longestZeros (ns : List Nat) : Option (Nat × Nat) :=
  let runs := (List.range ns.length).map fun i => (i, zerosInFront (ns.drop i))
  runs.foldl (fun best (i, n) =>
    if n < 2 then best
    else
      match best with
      | some (_, m) => if m < n then some (i, n) else best
      | none => some (i, n)) none

def pieceTexts (ns : List Nat) : String :=
  ":".intercalate (ns.map fun n => String.ofList (Text.hexChars n))

def ipv6Text (ns : List Nat) : String :=
  match longestZeros ns with
  | none => "[" ++ pieceTexts ns ++ "]"
  | some (i, n) => "[" ++ pieceTexts (ns.take i) ++ "::" ++ pieceTexts (ns.drop (i + n)) ++ "]"

def Host.text : Host → String
  | .name text => text
  | .ipv4 n => ipv4Text n
  | .ipv6 pieces => ipv6Text pieces

end FeedExplorer.Url
