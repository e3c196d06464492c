import FeedExplorer.Number.Rounding
import FeedExplorer.Number.Word

/-!
# Binary64

A double-precision number by its bits, as the exact dyadic rational `± mantissa · 2 ^ exponent`,
and the nearest double of a rational or of a decimal.
-/

namespace FeedExplorer

/-- The sixty-four bits of a double-precision number. -/
structure Binary64 where
  bits : UInt64
  deriving DecidableEq, Repr, Inhabited

namespace Binary64

/-- How many values the fraction bits can take. -/
abbrev fractionScale : Nat := 4503599627370496

def negative (x : Binary64) : Bool :=
  x.bits.toNat / Number.signedLimit == 1

/-- The eleven exponent bits. -/
def exponentBits (x : Binary64) : Nat :=
  x.bits.toNat / fractionScale % 2048

def fractionBits (x : Binary64) : Nat :=
  x.bits.toNat % fractionScale

/-- Neither an infinity nor a NaN. -/
def IsFinite (x : Binary64) : Prop :=
  x.exponentBits < 2047

instance (x : Binary64) : Decidable x.IsFinite :=
  inferInstanceAs (Decidable (_ < _))

/-- The integer whose product with `2 ^ exponent` is the magnitude. -/
def mantissa (x : Binary64) : Nat :=
  if x.exponentBits = 0 then x.fractionBits else x.fractionBits + fractionScale

def exponent (x : Binary64) : Int :=
  (max x.exponentBits 1 : Nat) - 1075

/-- The magnitude is `numerator / denominator`. -/
def numerator (x : Binary64) : Nat :=
  x.mantissa * Nat.pow 2 x.exponent.toNat

def denominator (x : Binary64) : Nat :=
  Nat.pow 2 (-x.exponent).toNat

theorem denominator_pos (x : Binary64) : 0 < x.denominator :=
  Nat.pow_pos (by decide)

/-- Of either sign. -/
def isZero (x : Binary64) : Bool :=
  x.mantissa == 0

def isIntegral (x : Binary64) : Bool :=
  x.numerator % x.denominator == 0

/-- The magnitude is below the natural number `n`. -/
def magnitudeBelow (x : Binary64) (n : Nat) : Bool :=
  decide (x.numerator < n * x.denominator)

/-- The integral part, cut toward zero. -/
def truncate (x : Binary64) : Int :=
  let n : Int := (x.numerator / x.denominator : Nat)
  if x.negative then -n else n

def signBit (negative : Bool) : Nat :=
  if negative then Number.signedLimit else 0

def zero (negative : Bool) : Binary64 :=
  ⟨UInt64.ofNat (signBit negative)⟩

/-- The exponent of the leading bit of `num / den`. -/
def leadingBit (num den : Nat) : Int :=
  let guess : Int := (Nat.log2 num : Int) - Nat.log2 den
  let reached :=
    if 0 ≤ guess then decide (den * Nat.pow 2 guess.toNat ≤ num)
    else decide (den ≤ num * Nat.pow 2 (-guess).toNat)
  if reached then guess else guess - 1

/-- The double nearest to `num / den`, ties to even; `none` when it would be an infinity. -/
def ofRatio? (negative : Bool) (num den : Nat) : Option Binary64 :=
  if num = 0 then some (zero negative)
  else
    let q := max (leadingBit num den - 52) (-1074)
    let m :=
      if 0 ≤ q then Number.roundEven num (den * Nat.pow 2 q.toNat)
      else Number.roundEven (num * Nat.pow 2 (-q).toNat) den
    let magnitude := (q + 1074).toNat * fractionScale + m
    if magnitude < 2047 * fractionScale then
      some ⟨UInt64.ofNat (signBit negative + magnitude)⟩
    else none

/-- The double nearest to `digits · 10 ^ scale`. Scales far outside the range of doubles are
settled without computing the power. -/
def ofDecimal? (negative : Bool) (digits : Nat) (scale : Int) : Option Binary64 :=
  if digits = 0 then some (zero negative)
  else if 400 < scale then none
  else if scale + (Nat.log2 digits : Int) < -1500 then some (zero negative)
  else if 0 ≤ scale then ofRatio? negative (digits * Nat.pow 10 scale.toNat) 1
  else ofRatio? negative digits (Nat.pow 10 (-scale).toNat)

/-- The double nearest to a natural number below `2 ^ 64`, or to its negative. -/
def ofNat (negative : Bool) (n : Nat) : Binary64 :=
  (ofRatio? negative n 1).getD (zero negative)

end Binary64

end FeedExplorer
