import FeedExplorer.Number.Shortest

/-!
# Notations of numbers

An integer with its sign, and three ways to write a double: in full without an exponent, as a number
of a data text with an exponent where the point would be far from the digits, and rounded to a fixed
number of places.
-/

namespace FeedExplorer.Number

def zeros (n : Nat) : List Char :=
  List.replicate n '0'

def minus (negative : Bool) : List Char :=
  if negative then ['-'] else []

/-- The digits of an integer behind its sign. -/
def integer (n : Int) : String :=
  String.ofList (minus (n < 0) ++ digitsOf n.natAbs)

/-- The digits with the point `point` places behind the first digit's left edge. -/
def withPoint (digits : List Char) (point : Int) : List Char × List Char :=
  if point ≤ 0 then ([], zeros (-point).toNat ++ digits)
  else if digits.length ≤ point.toNat then (digits ++ zeros (point.toNat - digits.length), [])
  else (digits.take point.toNat, digits.drop point.toNat)

/-- Joins a whole part, `0` when empty, and a fractional part, left out when empty. -/
def joinPoint (whole fraction : List Char) : List Char :=
  let whole := if whole.isEmpty then ['0'] else whole
  if fraction.isEmpty then whole else whole ++ '.' :: fraction

/-- Every digit of the shortest decimal, never an exponent, no point in an integer. -/
def plain (x : Binary64) : String :=
  if x.isZero then String.ofList (minus x.negative ++ ['0'])
  else
    let d := shortest x
    let digits := digitsOf d.digits
    let (whole, fraction) := withPoint digits (digits.length + d.scale)
    String.ofList (minus x.negative ++ joinPoint whole fraction)

/-- `plain`, with a point in integers too. What is not finite has a word of its own. -/
def pointed (x : Binary64) : String :=
  if x.IsFinite then
    let text := plain x
    if text.contains '.' then text else text ++ ".0"
  else if x.fractionBits ≠ 0 then "NaN"
  else if x.negative then "-inf" else "inf"

/-- The mark, sign and digits of a decimal exponent; a positive one is written with `+`. -/
def exponentPart (e : Int) : List Char :=
  'e' :: (if e < 0 then '-' else '+') :: digitsOf e.natAbs

/-- A number of a data text: positional with at least one fractional digit while the leading
digit's exponent is from -5 to 15, else one digit, the others behind a point, and an exponent. -/
def data (x : Binary64) : String :=
  if x.isZero then String.ofList (minus x.negative ++ ['0', '.', '0'])
  else
    let d := shortest x
    let digits := digitsOf d.digits
    let point : Int := digits.length + d.scale
    let text :=
      if -5 < point ∧ point ≤ 16 then
        let (whole, fraction) := withPoint digits point
        joinPoint whole (if fraction.isEmpty then ['0'] else fraction)
      else joinPoint (digits.take 1) (digits.drop 1) ++ exponentPart (point - 1)
    String.ofList (minus x.negative ++ text)

/-- Rounded to `places` fractional digits, ties of the exact value to even. -/
def places (places : Nat) (x : Binary64) : String :=
  let n := roundEven (x.numerator * Nat.pow 10 places) x.denominator
  let fraction := digitsOf (n % Nat.pow 10 places)
  let fraction := zeros (places - fraction.length) ++ fraction
  String.ofList (minus x.negative ++ digitsOf (n / Nat.pow 10 places) ++
    (if places = 0 then [] else '.' :: fraction))

end FeedExplorer.Number
