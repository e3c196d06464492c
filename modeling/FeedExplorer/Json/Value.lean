import FeedExplorer.Number.Notation
import FeedExplorer.Text.Quoted

/-!
# Data values

The values of a data text. Members of an object stand as they were written; `canonical` is the
form in which they are sorted by key and the last of several members with one key has won.
-/

namespace FeedExplorer

/-- Integers lie between `-2 ^ 63` and `2 ^ 64 - 1`; any other number is a double. -/
inductive Json where
  | null
  | bool (b : Bool)
  | int (n : Int)
  | real (x : Binary64)
  | str (s : String)
  | arr (items : List Json)
  | obj (members : List (String × Json))
  deriving Inhabited

namespace Json

/-- Puts a member at its place in the order of keys, over one with the same key. -/
def insertMember (key : String) (value : Json) : List (String × Json) → List (String × Json)
  | [] => [(key, value)]
  | (k, v) :: rest =>
    if key = k then (key, value) :: rest
    else if key < k then (key, value) :: (k, v) :: rest
    else (k, v) :: insertMember key value rest

/-- Sorted by key, the last of equal keys winning. -/
def sortMembers (members : List (String × Json)) : List (String × Json) :=
  members.foldl (fun sorted (k, v) => insertMember k v sorted) []

mutual

/-- The value with the members of every object sorted. -/
def canonical : Json → Json
  | .arr items => .arr (canonicalItems items)
  | .obj members => .obj (sortMembers (canonicalMembers members))
  | v => v

def canonicalItems : List Json → List Json
  | [] => []
  | v :: rest => canonical v :: canonicalItems rest

def canonicalMembers : List (String × Json) → List (String × Json)
  | [] => []
  | (k, v) :: rest => (k, canonical v) :: canonicalMembers rest

end

/-- The first value under a key. -/
def member? (key : String) (members : List (String × Json)) : Option Json :=
  members.lookup key

def isNull : Json → Bool
  | .null => true
  | _ => false

/-- What a value is, in the words of a complaint about it, given how doubles are written. -/
def describeWith (real : Binary64 → String) : Json → String
  | .null => "null"
  | .bool b => s!"boolean `{b}`"
  | .int n => "integer `" ++ Number.integer n ++ "`"
  | .real x => "floating point `" ++ real x ++ "`"
  | .str s => "string " ++ Text.quoted s
  | .arr _ => "sequence"
  | .obj _ => "map"

end Json

end FeedExplorer
