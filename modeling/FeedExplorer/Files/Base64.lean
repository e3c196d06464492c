import FeedExplorer.Text.Blank

/-!
# Base64

Bytes written with sixty-four symbols, in groups of four with padding, and read back. Reading
takes nothing but what writing produces.
-/

namespace FeedExplorer.Files.Base64

/-- The symbol of a value below sixty-four. -/
def symbol (n : Nat) : Char :=
  if n < 26 then Char.ofNat (65 + n)
  else if n < 52 then Char.ofNat (71 + n)
  else if n < 62 then Char.ofNat (n - 4)
  else if n = 62 then '+'
  else '/'

/-- The value of a symbol, given by its code. -/
def value? (b : Nat) : Option Nat :=
  if 65 ≤ b ∧ b ≤ 90 then some (b - 65)
  else if 97 ≤ b ∧ b ≤ 122 then some (b - 71)
  else if 48 ≤ b ∧ b ≤ 57 then some (b + 4)
  else if b = 43 then some 62
  else if b = 47 then some 63
  else none

/-- Three bytes give four symbols; a shorter last group is padded. -/
def encodeChars : List UInt8 → List Char
  | a :: b :: c :: rest =>
    let n := (a.toNat * 256 + b.toNat) * 256 + c.toNat
    symbol (n / 262144) :: symbol (n / 4096 % 64) :: symbol (n / 64 % 64) :: symbol (n % 64) ::
      encodeChars rest
  | [a, b] =>
    let n := (a.toNat * 256 + b.toNat) * 4
    [symbol (n / 4096), symbol (n / 64 % 64), symbol (n % 64), '=']
  | [a] =>
    let n := a.toNat * 16
    [symbol (n / 64), symbol (n % 64), '=', '=']
  | [] => []

/-- The written form of some bytes. -/
def encode (bytes : List UInt8) : String :=
  String.ofList (encodeChars bytes)

/-- Why a text is not the written form of any bytes. -/
inductive Fault where
  | invalidSymbol (byte offset : Nat)
  | invalidLength (length : Nat)
  | invalidLastSymbol (byte offset : Nat)
  | invalidPadding
  deriving DecidableEq, Repr

def Fault.message : Fault → String
  | .invalidSymbol byte offset => s!"Invalid symbol {byte}, offset {offset}."
  | .invalidLength length => s!"Invalid input length: {length}"
  | .invalidLastSymbol byte offset => s!"Invalid last symbol {byte}, offset {offset}."
  | .invalidPadding => "Invalid padding"

/-- A symbol that may stand anywhere. -/
def readSymbol (offset : Nat) (b : UInt8) : Except Fault Nat :=
  match value? b.toNat with
  | some v => .ok v
  | none => .error (.invalidSymbol b.toNat offset)

/-- The code of the padding symbol. -/
def pad : UInt8 := 61

/-- The values of the symbols of the last group, and how much padding follows them. Padding starts
no sooner than behind two symbols and nothing follows it. `place` counts from the group's start,
which lies at `offset`. -/
def readLastGroup (offset place : Nat) : List UInt8 → Except Fault (List Nat × Nat)
  | [] => .ok ([], 0)
  | b :: rest =>
    if b = pad then
      if place < 2 then .error (.invalidSymbol 61 (offset + place))
      else if rest.all (· == pad) then .ok ([], rest.length + 1)
      else .error (.invalidSymbol 61 (offset + place))
    else do
      let v ← readSymbol (offset + place) b
      let (values, padding) ← readLastGroup offset (place + 1) rest
      return (v :: values, padding)

/-- The bytes of the last group. It has four symbols with the padding, and no bit is set that
belongs to no byte. -/
def decodeLast (offset : Nat) (group : List UInt8) : Except Fault (List UInt8) := do
  let (values, padding) ← readLastGroup offset 0 group
  let lastCode := (group[values.length - 1]?.getD 0).toNat
  if (values.length + padding) % 4 ≠ 0 ∧ 2 ≤ values.length then throw .invalidPadding
  else
    match values with
    | [] => if group.isEmpty then return [] else throw (.invalidLength offset)
    | [_] => throw (.invalidLength (offset + 1))
    | [a, b] =>
      if b % 16 ≠ 0 then throw (.invalidLastSymbol lastCode (offset + 1))
      else return [UInt8.ofNat (a * 4 + b / 16)]
    | [a, b, c] =>
      if c % 4 ≠ 0 then throw (.invalidLastSymbol lastCode (offset + 2))
      else return [UInt8.ofNat (a * 4 + b / 16), UInt8.ofNat (b % 16 * 16 + c / 4)]
    | a :: b :: c :: d :: _ =>
      return [UInt8.ofNat (a * 4 + b / 16), UInt8.ofNat (b % 16 * 16 + c / 4),
        UInt8.ofNat (c % 4 * 64 + d)]

/-- The bytes of all groups from `offset` on. Only the last group can be padded. -/
def decodeFrom (offset : Nat) : List UInt8 → Except Fault (List UInt8)
  | a :: b :: c :: d :: rest =>
    if rest.isEmpty then decodeLast offset [a, b, c, d]
    else do
      let va ← readSymbol offset a
      let vb ← readSymbol (offset + 1) b
      let vc ← readSymbol (offset + 2) c
      let vd ← readSymbol (offset + 3) d
      let bytes ← decodeFrom (offset + 4) rest
      return UInt8.ofNat (va * 4 + vb / 16) :: UInt8.ofNat (vb % 16 * 16 + vc / 4) ::
        UInt8.ofNat (vc % 4 * 64 + vd) :: bytes
  | group => decodeLast offset group

/-- A foreign byte at the very end, behind full groups, is told before anything else. -/
def strayEnd? (codes : List UInt8) : Option Fault :=
  match codes.getLast? with
  | some b =>
    if codes.length % 4 = 1 ∧ b ≠ pad ∧ (value? b.toNat).isNone then
      some (.invalidSymbol b.toNat (codes.length - 1))
    else none
  | none => none

/-- The bytes that the codes of a text stand for. -/
def decode (codes : List UInt8) : Except Fault (List UInt8) :=
  match strayEnd? codes with
  | some fault => .error fault
  | none => decodeFrom 0 codes

end FeedExplorer.Files.Base64
