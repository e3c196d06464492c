import FeedExplorer.Json.Printer
import FeedExplorer.Json.Shape

/-!
# Records of stored files

What the file store is told and what it answers.
-/

namespace FeedExplorer.Files

open Json (Shape Mismatch asString asWord)

/-- What the store says of a file it has taken. -/
structure StoredFile where
  id : String
  filename : String
  location : String
  size : UInt64
  contentType : String
  deriving DecidableEq, Repr, Inhabited

/-- A file as the store hands it out, its contents still written as text. -/
structure FilePayload where
  filename : String
  contentType : String
  data : String
  deriving DecidableEq, Repr, Inhabited

/-- A file with its contents. -/
structure FetchedFile where
  filename : String
  contentType : String
  bytes : List UInt8
  deriving DecidableEq, Repr, Inhabited

def storedFileShape : Shape StoredFile where
  title := "UploadedFile"
  blank := { id := "", filename := "", location := "", size := 0, contentType := "" }
  fields :=
    [ { name := "id", spellings := [], required := true
        put := fun v f => do return { f with id := ← asString v } },
      { name := "filename", spellings := [], required := true
        put := fun v f => do return { f with filename := ← asString v } },
      { name := "location", spellings := [], required := false
        put := fun v f => do return { f with location := ← asString v } },
      { name := "size", spellings := [], required := false
        put := fun v f => do return { f with size := ← asWord v } },
      { name := "content_type", spellings := ["contentType"], required := false
        put := fun v f => do return { f with contentType := ← asString v } } ]

def StoredFile.ofJson : Json → Except Mismatch StoredFile :=
  storedFileShape.decode

def filePayloadShape : Shape FilePayload where
  title := "FilePayload"
  blank := { filename := "", contentType := "", data := "" }
  fields :=
    [ { name := "filename", spellings := [], required := true
        put := fun v f => do return { f with filename := ← asString v } },
      { name := "content_type", spellings := ["contentType"], required := false
        put := fun v f => do return { f with contentType := ← asString v } },
      { name := "data", spellings := [], required := true
        put := fun v f => do return { f with data := ← asString v } } ]

def FilePayload.ofJson : Json → Except Mismatch FilePayload :=
  filePayloadShape.decode

def StoredFile.toJson (f : StoredFile) : Json :=
  .obj [("id", .str f.id), ("filename", .str f.filename), ("location", .str f.location),
    ("size", .int f.size.toNat), ("content_type", .str f.contentType)]

end FeedExplorer.Files
