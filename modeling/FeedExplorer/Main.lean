import FeedExplorer.Cli.Run

/-!
# The program

Reads what a run needs from the file system, makes the run, and writes what it leaves there. No
network is attached, so every call is refused.
-/

namespace FeedExplorer.Main

open Disk (Entry Place)

/-- The directories that lead to a place, itself included. -/
def directoriesTo (p : Place) : List (List String × Entry) :=
  (List.range p.parts.length).map fun n => (p.parts.take (n + 1), .directory)

/-- The path of some parts, from the root. -/
def pathOf (parts : List String) : String :=
  "/" ++ "/".intercalate parts

/-- The files that a command line may be about: the configuration, the log and any word of it. -/
def candidates (home work : Place) (words : List String) : List Place :=
  Config.file home :: (Config.directory home).join Log.fileName :: words.map (Cli.placeOf work)

def readEntry (p : Place) : IO (List (List String × Entry)) := do
  try
    let bytes ← IO.FS.readBinFile (pathOf p.parts)
    return directoriesTo ⟨p.text, p.parts.dropLast⟩ ++ [(p.parts, .file bytes.toList)]
  catch _ => return []

def readDisk (home work : Place) (words : List String) : IO Disk := do
  let found ← (candidates home work words).mapM readEntry
  return ⟨found.flatten ++ directoriesTo home ++ directoriesTo work⟩

/-- Writes the files that were not there before, or not with these contents. -/
def writeChanges (before after : Disk) : IO Unit :=
  for (path, entry) in after.entries do
    match entry with
    | .directory => pure ()
    | .file bytes =>
      if before.entries.lookup path ≠ some entry then
        IO.FS.createDirAll (pathOf path.dropLast)
        IO.FS.writeBinFile (pathOf path) (ByteArray.mk bytes.toArray)

def appendLog (path : String) (lines : List String) : IO Unit := do
  unless lines.isEmpty do
    let handle ← IO.FS.Handle.mk path .append
    for line in lines do
      handle.putStrLn line

end FeedExplorer.Main

open FeedExplorer in
def main (words : List String) : IO UInt32 := do
  let homeText := (← IO.getEnv "HOME").getD "/"
  let workText := (← IO.currentDir).toString
  let home : Disk.Place := ⟨homeText, Disk.partsOf homeText⟩
  let work : Disk.Place := ⟨workText, Disk.partsOf workText⟩
  let address ← IO.getEnv "FEEDEX_RPC_URL"
  let filter ← IO.getEnv "FEEDEX_LOG"
  let env := fun name =>
    if name == "FEEDEX_RPC_URL" then address else if name == "FEEDEX_LOG" then filter else none
  let disk ← Main.readDisk home work words
  let outcome := Cli.run { env, home, work, disk, network := .empty } words
  Main.writeChanges disk outcome.disk
  Main.appendLog (Main.pathOf ((Config.directory home).join Log.fileName).parts) outcome.log
  IO.print outcome.stdout
  IO.eprint outcome.stderr
  return outcome.exit.toUInt32
