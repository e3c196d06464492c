/-!
# Hexadecimal digits

Digits of sixteen in either case, and numbers written with them.
-/

namespace FeedExplorer.Text

/-- The lower-case digit of a value below sixteen. -/
def hexDigit (n : Nat) : Char :=
  if n < 10 then Char.ofNat (48 + n) else Char.ofNat (87 + n)

/-- The upper-case digit of a value below sixteen. -/
def hexDigitUpper (n : Nat) : Char :=
  if n < 10 then Char.ofNat (48 + n) else Char.ofNat (55 + n)

/-- The value of a digit of either case. -/
def hexValue? (c : Char) : Option Nat :=
  if '0' ≤ c ∧ c ≤ '9' then some (c.toNat - 48)
  else if 'a' ≤ c ∧ c ≤ 'f' then some (c.toNat - 87)
  else if 'A' ≤ c ∧ c ≤ 'F' then some (c.toNat - 55)
  else none

theorem hexValue?_hexDigit {n : Nat} (h : n < 16) : hexValue? (hexDigit n) = some n := by
  have all : ∀ m ∈ List.range 16, hexValue? (hexDigit m) = some m := by decide
  exact all n (List.mem_range.mpr h)

theorem hexValue?_hexDigitUpper {n : Nat} (h : n < 16) :
    hexValue? (hexDigitUpper n) = some n := by
  have all : ∀ m ∈ List.range 16, hexValue? (hexDigitUpper m) = some m := by decide
  exact all n (List.mem_range.mpr h)

/-- Exactly `width` lower-case digits, the low ones when the number has more. -/
def hexFixed (width n : Nat) : List Char :=
  match width with
  | 0 => []
  | width + 1 => hexFixed width (n / 16) ++ [hexDigit (n % 16)]

/-- Exactly `width` upper-case digits. -/
def hexFixedUpper (width n : Nat) : List Char :=
  match width with
  | 0 => []
  | width + 1 => hexFixedUpper width (n / 16) ++ [hexDigitUpper (n % 16)]

/-- Lower-case digits without leading zeros. -/
def hexChars (n : Nat) : List Char :=
  Nat.toDigits 16 n

/-- The two-digit form of each byte in turn. -/
def hexOfBytes (bytes : List UInt8) : String :=
  String.ofList (bytes.flatMap fun b => hexFixed 2 b.toNat)

/-- Reads pairs of digits as bytes. -/
def bytesOfHex? : List Char → Option (List UInt8)
  | [] => some []
  | [_] => none
  | a :: b :: rest => do
    let high ← hexValue? a
    let low ← hexValue? b
    let bytes ← bytesOfHex? rest
    some (UInt8.ofNat (16 * high + low) :: bytes)

end FeedExplorer.Text
