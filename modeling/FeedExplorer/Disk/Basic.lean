import FeedExplorer.Text.Quoted

/-!
# Disk

Files and directories by the parts of their paths. Reading, writing and making directories fail
for the reasons that a path gives: a part that is missing, one that is no directory, one that is
too long. Links are left out, as are permissions and disks that are full.
-/

namespace FeedExplorer

/-- What a name in a directory stands for; none is a link. -/
inductive Disk.Entry where
  | file (bytes : List UInt8)
  | directory
  deriving DecidableEq, Repr

/-- The root always is a directory. -/
structure Disk where
  entries : List (List String × Disk.Entry)
  deriving Repr

namespace Disk

inductive Fault where
  | notFound
  | exists_
  | notDirectory
  | isDirectory
  | nameTooLong
  | nulByte
  deriving DecidableEq, Repr

def Fault.message : Fault → String
  | .notFound => "No such file or directory (os error 2)"
  | .exists_ => "File exists (os error 17)"
  | .notDirectory => "Not a directory (os error 20)"
  | .isDirectory => "Is a directory (os error 21)"
  | .nameTooLong => "File name too long (os error 36)"
  | .nulByte => "file name contained an unexpected NUL byte"

/-- A path as it was given, with the parts that it leads through from the root. -/
structure Place where
  text : String
  parts : List String
  deriving DecidableEq, Repr

/-- The pieces of a text between slashes; the first goes on from `current`, given in reverse. -/
def piecesFrom : List Char → List Char → List String
  | current, [] => [String.ofList current.reverse]
  | current, c :: cs =>
    if c = '/' then String.ofList current.reverse :: piecesFrom [] cs
    else piecesFrom (c :: current) cs

/-- The parts of a path. -/
def partsOf (text : String) : List String :=
  (piecesFrom [] text.toList).filter fun p => p ≠ "" && p ≠ "."

/-- A path seen from a directory. -/
def Place.join (dir : Place) (name : String) : Place :=
  if name.startsWith "/" then ⟨name, partsOf name⟩
  else
    let gap := if dir.text.isEmpty || dir.text.endsWith "/" then "" else "/"
    ⟨dir.text ++ gap ++ name, dir.parts ++ partsOf name⟩

/-- The last part of a path, unless it leads upward or nowhere. -/
def Place.fileName? (p : Place) : Option String :=
  match (partsOf p.text).getLast? with
  | some ".." => none
  | last => last

/-- A path in quotes. -/
def Place.quoted (p : Place) : String :=
  Text.quotedPath p.text

def lookup? (d : Disk) (path : List String) : Option Entry :=
  if path.isEmpty then some .directory else d.entries.lookup path

/-- Follows the parts of a path through directories, given the path gone so far in reverse. All
but the last part have to exist. -/
def follow (d : Disk) : List String → List String → Except Fault (List String)
  | gone, [] => .ok gone.reverse
  | gone, part :: rest =>
    if 255 < part.utf8ByteSize then .error .nameTooLong
    else
      let next := if part = ".." then gone.tail else part :: gone
      if rest.isEmpty then .ok next.reverse
      else
        match d.lookup? next.reverse with
        | some .directory => follow d next rest
        | some (.file _) => .error .notDirectory
        | none => .error .notFound

/-- Where a path leads. -/
def locate (d : Disk) (p : Place) : Except Fault (List String) :=
  if p.text.toList.contains '\x00' then .error .nulByte else d.follow [] p.parts

def read (d : Disk) (p : Place) : Except Fault (List UInt8) := do
  let path ← d.locate p
  match d.lookup? path with
  | some (.file bytes) => return bytes
  | some .directory => throw .isDirectory
  | none => throw .notFound

/-- Puts an entry at a path, over what was there. -/
def put (d : Disk) (path : List String) (entry : Entry) : Disk :=
  ⟨(path, entry) :: d.entries.filter (·.1 != path)⟩

def write (d : Disk) (p : Place) (bytes : List UInt8) : Except Fault Disk := do
  let path ← d.locate p
  match d.lookup? path with
  | some .directory => throw .isDirectory
  | _ => return d.put path (.file bytes)

/-- Something is at the place. -/
def holds (d : Disk) (p : Place) : Bool :=
  match d.locate p with
  | .ok path => (d.lookup? path).isSome
  | .error _ => false

/-- Makes the directories of a path that are missing. -/
def makeAll (d : Disk) : List String → List String → Except Fault Disk
  | _, [] => .ok d
  | gone, part :: rest =>
    let next := gone ++ [part]
    match d.lookup? next with
    | some .directory => makeAll d next rest
    | some (.file _) => .error (if rest.isEmpty then .exists_ else .notDirectory)
    | none => makeAll (d.put next .directory) next rest

def makeDirectories (d : Disk) (p : Place) : Except Fault Disk :=
  d.makeAll [] p.parts

/-- Every file below a directory, by the rest of its path. -/
def filesBelow (d : Disk) (dir : List String) : List (String × List UInt8) :=
  d.entries.filterMap fun (path, entry) =>
    match entry with
    | .file bytes =>
      if dir.isPrefixOf path ∧ dir ≠ path then
        some ("/".intercalate (path.drop dir.length), bytes)
      else none
    | .directory => none

end Disk

end FeedExplorer
