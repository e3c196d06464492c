import FeedExplorer.Disk.Basic
import FeedExplorer.Files.Name
import FeedExplorer.Source.Client

/-!
# Transfers

Sending a file of the disk to the store, and putting a file of the store into a directory. The
name that the store gives cannot lead out of the directory.
-/

namespace FeedExplorer.Files

open Disk (Place)
open Net (Network)
open Source (RpcClient)

/-- Where events of transfers are noted. -/
def logPart : String := "feedex::files"

def uploadedEvent (stored : StoredFile) (name : String) (size : Nat) : Log.Event :=
  { level := .info, part := logPart, message := "file uploaded"
    fields := [("id", stored.id), ("filename", Text.quoted name), ("size", toString size)] }

/-- Sends a file of the disk under its own name. -/
def upload (disk : Disk) (path : Place) (c : RpcClient) (n : Network) :
    Except Trouble StoredFile × RpcClient × Network :=
  match path.fileName? with
  | none => (.error (.plain (path.quoted ++ " has no usable file name")), c, n)
  | some name =>
    match disk.read path with
    | .error fault => (.error (.caused ("Failed to read " ++ path.quoted) fault.message), c, n)
    | .ok bytes =>
      let (result, c, n) := c.upload name bytes n
      match result with
      | .error e => (.error (.caused ("Upload of " ++ name ++ " failed") e.message), c, n)
      | .ok stored => (.ok stored, c, n.note (uploadedEvent stored name bytes.length))

/-- The name a fetched file is kept under: the one the store gives, else the one it was asked for,
else a fixed one. -/
def targetName (filename id : String) : String :=
  ((safeName? filename) <|> (safeName? id)).getD "download"

def downloadedEvent (id : String) (target : Place) (contentType : String) : Log.Event :=
  { level := .info, part := logPart, message := "file downloaded"
    fields := [("file_id", Text.quoted id), ("path", target.quoted),
      ("content_type", contentType)] }

/-- Fetches a file and writes it into a directory. -/
def download (disk : Disk) (id : String) (dir : Place) (c : RpcClient) (n : Network) :
    Except Trouble (Place × Disk) × RpcClient × Network :=
  let id := Text.trim id
  if id.isEmpty then (.error (.plain "Please enter a file ID"), c, n)
  else
    let (result, c, n) := c.getFile id n
    match result with
    | .error e => (.error (.caused ("Download of " ++ id ++ " failed") e.message), c, n)
    | .ok file =>
      let target := dir.join (targetName file.filename id)
      match disk.write target file.bytes with
      | .error fault =>
        (.error (.caused ("Failed to write " ++ target.quoted) fault.message), c, n)
      | .ok disk => (.ok (target, disk), c, n.note (downloadedEvent id target file.contentType))

end FeedExplorer.Files
