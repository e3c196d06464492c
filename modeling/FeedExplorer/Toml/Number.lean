import FeedExplorer.Number.Word
import FeedExplorer.Toml.Fault
import FeedExplorer.Toml.Value

/-!
# Numbers and dates of settings

Integers in four bases with underscores between digits, doubles, and the forms of dates.
-/

namespace FeedExplorer.Toml

/-- Digits of a base with single underscores between them. What follows an underscore has to be a
digit. The first argument tells that a digit has just been taken. -/
def takeDigits (isDigit : Char → Bool) (label : String) :
    Bool → List Char → Except Fault (List Char × List Char)
  | _, [] => .ok ([], [])
  | after, c :: cs =>
    if isDigit c then do
      let (ds, rest) ← takeDigits isDigit label true cs
      return (c :: ds, rest)
    else if c = '_' ∧ after then
      match cs with
      | [] => .error (.atNext (some label) ["digit"] [])
      | d :: _ =>
        if isDigit d then takeDigits isDigit label true cs
        else .error (.atNext (some label) ["digit"] cs)
    else .ok ([], c :: cs)

def natOfBase (base : Nat) (digits : List Char) : Nat :=
  digits.foldl (fun n c => base * n + (Text.hexValue? c).getD 0) 0

/-- An integer that fits into 64 bits with a sign. -/
def fitInteger (n : Int) (place rest : List Char) : Except Fault (Value × List Char) :=
  if n < -(Number.signedLimit : Int) then
    .error ⟨"number too small to fit in target type", place.length, 1⟩
  else if (Number.signedLimit : Int) ≤ n then
    .error ⟨"number too large to fit in target type", place.length, 1⟩
  else .ok (.int n, rest)

/-- The digits of an integer in base 2, 8 or 16, behind its mark. -/
def readBased (base : Nat) (label : String) (place cs : List Char) :
    Except Fault (Value × List Char) := do
  let isDigit := fun c => match Text.hexValue? c with
    | some d => decide (d < base)
    | none => false
  let (digits, rest) ← takeDigits isDigit label false cs
  if digits.isEmpty then throw (.atNext (some label) [] cs)
  else fitInteger (natOfBase base digits) place rest

/-- Exactly `n` decimal digits. -/
def takeFixed : Nat → List Char → Option (List Char × List Char)
  | 0, cs => some ([], cs)
  | _ + 1, [] => none
  | n + 1, c :: cs =>
    if c.isDigit then (takeFixed n cs).map fun (ds, rest) => (c :: ds, rest) else none

/-- A two-digit number between two bounds. -/
def takeTwo (low high : Nat) (cs : List Char) : Option (Nat × List Char) := do
  let (ds, rest) ← takeFixed 2 cs
  let n := natOfBase 10 ds
  if low ≤ n ∧ n ≤ high then some (n, rest) else none

def takeChar (c : Char) : List Char → Option (List Char)
  | d :: rest => if c = d then some rest else none
  | [] => none

/-- Hours, minutes and seconds, with any number of digits behind a point. -/
def takeTime (cs : List Char) : Option (List Char) := do
  let (_, cs) ← takeTwo 0 23 cs
  let cs ← takeChar ':' cs
  let (_, cs) ← takeTwo 0 59 cs
  let cs ← takeChar ':' cs
  let (_, cs) ← takeTwo 0 60 cs
  match cs with
  | '.' :: d :: rest => if d.isDigit then some (rest.dropWhile Char.isDigit) else none
  | _ => some cs

/-- The number of days of a month. -/
def daysOf (year month : Nat) : Nat :=
  if month = 2 then
    if year % 4 = 0 ∧ (year % 100 ≠ 0 ∨ year % 400 = 0) then 29 else 28
  else if month = 4 ∨ month = 6 ∨ month = 9 ∨ month = 11 then 30
  else 31

def takeDay (cs : List Char) : Option (List Char) := do
  let (year, cs) ← takeFixed 4 cs
  let cs ← takeChar '-' cs
  let (month, cs) ← takeTwo 1 12 cs
  let cs ← takeChar '-' cs
  let (day, cs) ← takeTwo 1 31 cs
  if day ≤ daysOf (natOfBase 10 year) month then some cs else none

/-- The distance of a time from the universal one. -/
def takeOffset (cs : List Char) : Option (List Char) :=
  match cs with
  | 'Z' :: rest => some rest
  | 'z' :: rest => some rest
  | c :: rest =>
    if c = '+' ∨ c = '-' then do
      let (_, rest) ← takeTwo 0 23 rest
      let rest ← takeChar ':' rest
      let (_, rest) ← takeTwo 0 59 rest
      some rest
    else some cs
  | [] => some []

/-- The time behind a day, if there is one. -/
def takeTimeOfDay (cs : List Char) : Option (List Char) :=
  match cs with
  | c :: d :: rest =>
    if c = 'T' ∨ c = 't' ∨ (c = ' ' ∧ d.isDigit) then do takeOffset (← takeTime (d :: rest))
    else some cs
  | _ => some cs

def takeDate (cs : List Char) : Option (List Char) :=
  match takeDay cs with
  | some rest => takeTimeOfDay rest
  | none => takeTime cs

/-- A text that begins like a day, so that it can be nothing else. -/
def looksLikeDay (cs : List Char) : Bool :=
  match takeFixed 4 cs with
  | some (_, '-' :: _) => true
  | _ => false

/-- The exponent of a double, if its mark comes next. -/
def readExponent (cs : List Char) : Except Fault (Option Int × List Char) :=
  match cs with
  | c :: rest =>
    if c = 'e' ∨ c = 'E' then do
      let (down, rest) := match rest with
        | '-' :: rest => (true, rest)
        | '+' :: rest => (false, rest)
        | rest => (false, rest)
      let (digits, rest') ← takeDigits Char.isDigit "floating-point number" false rest
      if digits.isEmpty then throw (.atNext (some "floating-point number") [] rest)
      else
        let e : Int := natOfBase 10 digits
        return (some (if down then -e else e), rest')
    else return (none, cs)
  | [] => return (none, [])

/-- The digits behind the point of a double, if there is one. -/
def readFraction (cs : List Char) : Except Fault (Option (List Char) × List Char) :=
  match cs with
  | '.' :: rest => do
    let (digits, rest') ← takeDigits Char.isDigit "floating-point number" false rest
    if digits.isEmpty then throw (.atNext (some "floating-point number") ["digit"] rest)
    else return (some digits, rest')
  | _ => return (none, cs)

/-- A number in base ten behind its sign. -/
def readDecimal (negative : Bool) (place cs : List Char) : Except Fault (Value × List Char) := do
  let (whole, rest) ←
    match cs with
    | '0' :: rest => pure (['0'], rest)
    | _ => takeDigits Char.isDigit "integer" false cs
  if whole.isEmpty then throw (.atNext (some "integer") [] cs)
  let (fraction, rest) ← readFraction rest
  let (exponent, rest) ← readExponent rest
  if fraction.isNone ∧ exponent.isNone then
    let n : Int := natOfBase 10 whole
    fitInteger (if negative then -n else n) place rest
  else
    let digits := fraction.getD []
    match Binary64.ofDecimal? negative (natOfBase 10 (whole ++ digits))
        (exponent.getD 0 - digits.length) with
    | some x => return (.real x, rest)
    | none => throw (.atNext (some "floating-point number") [] place)

/-- The bits of an infinity and of a NaN. -/
def infinity (negative : Bool) : Binary64 :=
  ⟨if negative then 0xFFF0000000000000 else 0x7FF0000000000000⟩

def notANumber (negative : Bool) : Binary64 :=
  ⟨if negative then 0xFFF8000000000000 else 0x7FF8000000000000⟩

/-- What may follow a sign. -/
def readSigned (negative : Bool) (place cs : List Char) : Except Fault (Value × List Char) :=
  match cs with
  | 'i' :: 'n' :: 'f' :: rest => .ok (.real (infinity negative), rest)
  | 'n' :: 'a' :: 'n' :: rest => .ok (.real (notANumber negative), rest)
  | _ => readDecimal negative place cs

/-- A value that begins with a sign or a digit. -/
def readNumber (cs : List Char) : Except Fault (Value × List Char) :=
  match takeDate cs with
  | some rest => .ok (.date, rest)
  | none =>
    if looksLikeDay cs then .error (.atNext (some "date-time") [] cs)
    else
      match cs with
      | '+' :: rest => readSigned false cs rest
      | '-' :: rest => readSigned true cs rest
      | '0' :: 'x' :: rest => readBased 16 "hexadecimal integer" cs rest
      | '0' :: 'o' :: rest => readBased 8 "octal integer" cs rest
      | '0' :: 'b' :: rest => readBased 2 "binary integer" cs rest
      | _ => readDecimal false cs cs

end FeedExplorer.Toml
