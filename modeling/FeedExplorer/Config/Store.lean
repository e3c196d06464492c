import FeedExplorer.Config.Text
import FeedExplorer.Disk.Basic
import FeedExplorer.Trouble

/-!
# The configuration file

Where a configuration is kept below a home directory, reading it back, and writing it. A missing
file stands for the initial configuration.
-/

namespace FeedExplorer.Config

/-- The directory for everything the program keeps. -/
def directory (home : Disk.Place) : Disk.Place :=
  (home.join ".config").join "feedex"

def file (home : Disk.Place) : Disk.Place :=
  (directory home).join "config.toml"

/-- The characters of some bytes, if they are well formed. -/
def decodeText (bytes : List UInt8) : Option (List Char) :=
  (String.fromUTF8? (ByteArray.mk bytes.toArray)).map (·.toList)

def encodeText (cs : List Char) : List UInt8 :=
  (String.ofList cs).toUTF8.toList

def load (disk : Disk) (home : Disk.Place) : Except Trouble Config :=
  let path := file home
  if disk.holds path then
    let failed := "Failed to read config from " ++ path.quoted
    match disk.read path with
    | .error fault => .error (.caused failed fault.message)
    | .ok bytes =>
      match decodeText bytes with
      | none => .error (.caused failed "stream did not contain valid UTF-8")
      | some text =>
        match parse text with
        | .ok c => .ok c
        | .error fault => .error (.caused "Failed to parse config file" (fault.render text))
  else .ok initial

/-- Writes a configuration over the one that was kept before. The directories on the way have been
made even when the configuration has no text. -/
def keep (c : Config) (disk : Disk) (home : Disk.Place) : Except Trouble Unit × Disk :=
  let dir := directory home
  match disk.makeDirectories dir with
  | .error fault =>
    (.error (.caused ("Failed to create config directory " ++ dir.quoted) fault.message), disk)
  | .ok disk =>
    match c.render? with
    | none =>
      (.error (.caused "Failed to serialize config" "out-of-range value for u64 type"), disk)
    | some text =>
      let path := file home
      match disk.write path (encodeText text) with
      | .error fault =>
        (.error (.caused ("Failed to write config to " ++ path.quoted) fault.message), disk)
      | .ok disk => (.ok (), disk)

/-- The disk on which a configuration has been kept. -/
def save (c : Config) (disk : Disk) (home : Disk.Place) : Except Trouble Disk :=
  let (kept, disk) := c.keep disk home
  kept.map fun _ => disk

/-- The configuration with another address. -/
def withRpcUrl (c : Config) (url : String) : Config :=
  { c with rpcUrl := some url }

end FeedExplorer.Config
