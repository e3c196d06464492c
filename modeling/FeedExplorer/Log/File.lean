import FeedExplorer.Disk.Basic
import FeedExplorer.Log.Filter

/-!
# Log files

The file that events are appended to. When it cannot be opened events are dropped.
-/

namespace FeedExplorer.Log

def fileName : String := "feedex.log"

/-- Opens the log of a directory, which is made if it is missing: the disk and the path of the log,
if it could be opened. -/
def openIn (disk : Disk) (dir : Disk.Place) : Disk × Option Disk.Place :=
  let path := dir.join fileName
  match disk.makeDirectories dir with
  | .error _ => (disk, none)
  | .ok disk =>
    match disk.locate path with
    | .error _ => (disk, none)
    | .ok parts =>
      match disk.lookup? parts with
      | some .directory => (disk, none)
      | some (.file _) => (disk, some path)
      | none => (disk.put parts (.file []), some path)

end FeedExplorer.Log
