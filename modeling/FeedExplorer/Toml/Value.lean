import FeedExplorer.Json.Value

/-!
# Settings values

The values of a settings text, and the data values they stand for.
-/

namespace FeedExplorer.Toml

inductive Value where
  | str (s : String)
  | int (n : Int)
  | real (x : Binary64)
  | bool (b : Bool)
  | date
  | arr (items : List Value)
  | table (entries : List (String × Value))
  deriving Inhabited

namespace Value

/-- The name of the kind of a value. -/
def kind : Value → String
  | .str _ => "string"
  | .int _ => "integer"
  | .real _ => "float"
  | .bool _ => "boolean"
  | .date => "datetime"
  | .arr _ => "array"
  | .table _ => "inline table"

mutual

/-- A date is a record of its own; its contents do not matter here. -/
def toJson : Value → Json
  | .str s => .str s
  | .int n => .int n
  | .real x => .real x
  | .bool b => .bool b
  | .date => .obj []
  | .arr items => .arr (itemsToJson items)
  | .table entries => .obj (entriesToJson entries)

def itemsToJson : List Value → List Json
  | [] => []
  | v :: rest => toJson v :: itemsToJson rest

def entriesToJson : List (String × Value) → List (String × Json)
  | [] => []
  | (k, v) :: rest => (k, toJson v) :: entriesToJson rest

end

end Value

end FeedExplorer.Toml
