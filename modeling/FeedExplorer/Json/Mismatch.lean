import FeedExplorer.Json.Value
import FeedExplorer.Number.Word

/-!
# Mismatches

Why a value is not of the kind that is wanted, and the readers of the plain kinds.
-/

namespace FeedExplorer.Json

inductive Mismatch where
  | wrongType (found : Json) (expected : String)
  | wrongValue (found : Json) (expected : String)
  | wrongLength (length : Nat) (expected : String)
  | missingField (name : String)
  | duplicateField (name : String)
  | unknownVariant (name : String) (known : List String)
  | noVariant (union : String)
  | wanted (what : String)

/-- The names of variants, each between backquotes. -/
def knownVariants : List String → String
  | [] => "there are no variants"
  | [a] => s!"expected `{a}`"
  | [a, b] => s!"expected `{a}` or `{b}`"
  | names => "expected one of " ++ ", ".intercalate (names.map fun n => s!"`{n}`")

/-- The words of a mismatch, given how doubles are written in them. -/
def Mismatch.messageWith (real : Binary64 → String) : Mismatch → String
  | .wrongType found expected => s!"invalid type: {found.describeWith real}, expected {expected}"
  | .wrongValue found expected => s!"invalid value: {found.describeWith real}, expected {expected}"
  | .wrongLength length expected => s!"invalid length {length}, expected {expected}"
  | .missingField name => s!"missing field `{name}`"
  | .duplicateField name => s!"duplicate field `{name}`"
  | .unknownVariant name known => s!"unknown variant `{name}`, {knownVariants known}"
  | .noVariant union => s!"data did not match any variant of untagged enum {union}"
  | .wanted what => "wanted " ++ what

def Mismatch.message : Mismatch → String :=
  Mismatch.messageWith Number.data

def asString : Json → Except Mismatch String
  | .str s => .ok s
  | v => .error (.wrongType v "a string")

/-- An integer from 0 to `2 ^ 64 - 1`; a double never counts as one. -/
def asWord : Json → Except Mismatch UInt64
  | .int n =>
    if 0 ≤ n ∧ n < Number.wordLimit then .ok (UInt64.ofNat n.toNat)
    else .error (.wrongValue (.int n) "u64")
  | v => .error (.wrongType v "u64")

/-- An integer from `-2 ^ 63` to `2 ^ 63 - 1`. -/
def asSigned : Json → Except Mismatch Int
  | .int n =>
    if -(Number.signedLimit : Int) ≤ n ∧ n < Number.signedLimit then .ok n
    else .error (.wrongValue (.int n) "i64")
  | v => .error (.wrongType v "i64")

/-- A double, or the one nearest to an integer. -/
def asReal : Json → Except Mismatch Binary64
  | .real x => .ok x
  | .int n => .ok (Binary64.ofNat (n < 0) n.natAbs)
  | v => .error (.wrongType v "f64")

/-- Nothing where the value is `null`. -/
def asOptional {α : Type} (read : Json → Except Mismatch α) : Json → Except Mismatch (Option α)
  | .null => .ok none
  | v => (read v).map some

/-- Each item of a list. -/
def asList {α : Type} (read : Json → Except Mismatch α) : Json → Except Mismatch (List α)
  | .arr items => items.mapM read
  | v => .error (.wrongType v "a sequence")

end FeedExplorer.Json
