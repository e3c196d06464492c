import FeedExplorer.Toml.Reader

/-!
# Tables of settings

The tree of tables that the lines of a settings text build up. No key is given twice, a table has
one header, and keys with points extend only what such keys made.
-/

namespace FeedExplorer.Toml

/-- How a table came to be. -/
inductive Making where
  /-- As a part of the name of another table. -/
  | implied
  /-- By a key with points. -/
  | dotted
  /-- By its own header. -/
  | stated
  deriving DecidableEq, Repr

/-- What stands under a key, and where it stands in the text. -/
inductive Node where
  | value (v : Value) (start width : Nat)
  | table (making : Making) (entries : List (String × Node)) (start width : Nat)
  | tables (items : List (List (String × Node))) (start width : Nat)

abbrev Entries := List (String × Node)

/-- Two lines that cannot stand in one text. -/
inductive Clash where
  | duplicate (key : String) (table : Option (List String))
  | notTable (path : List String) (kind : String)

def tableName : List String → String
  | [] => "document root"
  | path => "table `" ++ ".".intercalate path ++ "`"

def Clash.message : Clash → String
  | .duplicate key none => s!"duplicate key `{key}`"
  | .duplicate key (some path) => s!"duplicate key `{key}` in " ++ tableName path
  | .notTable path kind =>
    "dotted key `" ++ ".".intercalate path ++ "` attempted to extend non-table type (" ++ kind ++
      ")"

/-- Puts a node under a key, over what stood there or behind all others. -/
def setKey (key : String) (node : Node) : Entries → Entries
  | [] => [(key, node)]
  | (k, n) :: rest => if k = key then (k, node) :: rest else (k, n) :: setKey key node rest

/-- Changes the table that a path leads to, making the tables on the way. `last` tells how the
table that is reached was made. -/
def changeAt (dotted : Bool) (start width : Nat) (change : Making → Entries → Except Clash Entries)
    (done : List String) (last : Making) : List String → Entries → Except Clash Entries
  | [], entries => change last entries
  | key :: path, entries => do
    let making := if dotted then Making.dotted else .implied
    match entries.lookup key with
    | none =>
      let inner ← changeAt dotted start width change (done ++ [key]) making path []
      return entries ++ [(key, .table making inner start width)]
    | some (.value v _ _) => throw (.notTable (done ++ [key]) v.kind)
    | some (.table m inner s w) =>
      if dotted ∧ m = .stated then throw (.duplicate key none)
      else
        let inner ← changeAt dotted start width change (done ++ [key]) m path inner
        return setKey key (.table m inner s w) entries
    | some (.tables items s w) =>
      let inner ← changeAt dotted start width change (done ++ [key]) .stated path
        (items.getLast?.getD [])
      return setKey key (.tables (items.dropLast ++ [inner]) s w) entries

/-- A path parted into all but its last key, and that key. -/
def splitLast (path : List String) : List String × String :=
  (path.dropLast, path.getLast?.getD "")

/-- Adds an entry to the table that is open. -/
def addEntry (open_ path : List String) (value : Value) (start valueStart valueWidth : Nat)
    (root : Entries) : Except Clash Entries :=
  let (way, key) := splitLast path
  let put : Making → Entries → Except Clash Entries := fun making entries =>
    if ¬ way.isEmpty ∧ making ≠ .dotted then .error (.duplicate key none)
    else if (entries.lookup key).isSome then .error (.duplicate key (some open_))
    else .ok (entries ++ [(key, .value value valueStart valueWidth)])
  changeAt false start valueWidth
    (fun _ entries => changeAt true start valueWidth put [] .stated way entries) [] .stated open_
    root

/-- Opens a table by its header. -/
def addHeader (path : List String) (start width : Nat) (root : Entries) : Except Clash Entries :=
  let (way, key) := splitLast path
  let put : Making → Entries → Except Clash Entries := fun _ entries =>
    match entries.lookup key with
    | none => .ok (entries ++ [(key, .table .stated [] start width)])
    | some (.table .implied inner _ _) =>
      .ok (setKey key (.table .stated inner start width) entries)
    | some _ => .error (.duplicate key (some way))
  changeAt false start width put [] .stated way root

/-- Opens one more of repeated tables. -/
def addRepeated (path : List String) (start width : Nat) (root : Entries) :
    Except Clash Entries :=
  let (way, key) := splitLast path
  let put : Making → Entries → Except Clash Entries := fun _ entries =>
    match entries.lookup key with
    | none => .ok (entries ++ [(key, .tables [[]] start width)])
    | some (.tables items s w) => .ok (setKey key (.tables (items ++ [[]]) s w) entries)
    | some _ => .error (.duplicate key (some way))
  changeAt false start width put [] .stated way root

/-- Adds the lines in turn; `open_` is the table that the last header opened. -/
def build : List String → List Item → Entries → Except Fault Entries
  | _, [], root => .ok root
  | open_, .entry path value start valueStart valueWidth :: rest, root =>
    match addEntry open_ path value start valueStart valueWidth root with
    | .ok root => build open_ rest root
    | .error clash => .error ⟨clash.message, start, 1⟩
  | _, .header path start width :: rest, root =>
    match addHeader path start width root with
    | .ok root => build path rest root
    | .error clash => .error ⟨clash.message, start, 1⟩
  | _, .repeated path start width :: rest, root =>
    match addRepeated path start width root with
    | .ok root => build path rest root
    | .error clash => .error ⟨clash.message, start, 1⟩

/-- The tree that a settings text describes. -/
def parse (text : List Char) : Except Fault Entries := do
  let (items, fault) := readItemsOf text
  let root ← build [] items []
  match fault with
  | some fault => throw fault
  | none => return root

mutual

/-- The data value of a node. -/
def Node.toJson : Node → Json
  | .value v _ _ => v.toJson
  | .table _ entries _ _ => .obj (entriesToJson entries)
  | .tables items _ _ => .arr (tablesToJson items)

def entriesToJson : List (String × Node) → List (String × Json)
  | [] => []
  | (k, n) :: rest => (k, n.toJson) :: entriesToJson rest

def tablesToJson : List (List (String × Node)) → List Json
  | [] => []
  | t :: rest => .obj (entriesToJson t) :: tablesToJson rest

end

/-- Where a node starts, as the number of characters behind, and how many bytes it takes. -/
def Node.place : Node → Nat × Nat
  | .value _ start width => (start, width)
  | .table _ _ start width => (start, width)
  | .tables _ start width => (start, width)

end FeedExplorer.Toml
