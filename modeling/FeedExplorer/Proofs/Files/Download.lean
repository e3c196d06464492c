import FeedExplorer.Cli.Run
import FeedExplorer.Proofs.Files.Name
import FeedExplorer.Proofs.Source.Outcome

/-!
# Downloads

What a download leaves on the disk. Main statement: one new file, a direct child of the directory
that was asked for, with the contents that the store gives; or nothing at all when there is trouble.
-/

namespace FeedExplorer

namespace Files

open Disk (Place)
open Net (Network)
open Source (RpcClient)

variable {disk disk' : Disk} {id : String} {dir target : Place} {c : RpcClient} {n : Network}

/-- The store answers the call for a file with a payload that holds these bytes. -/
def Fetches (id : String) (c : RpcClient) (n : Network) (payload : FilePayload)
    (bytes : List UInt8) : Prop :=
  (c.call FilePayload.ofJson "get_file" (.str id) n).1 = .ok payload ∧
    decodeContent payload.data = .ok bytes

theorem openPayload_eq_ok_iff {payload : FilePayload} {file : FetchedFile} :
    RpcClient.openPayload payload = .ok file ↔
      ∃ bytes, decodeContent payload.data = .ok bytes ∧
        file = ⟨payload.filename, payload.contentType, bytes⟩ := by
  rw [RpcClient.openPayload]
  cases decodeContent payload.data <;> simp [eq_comm]

theorem getFile_eq_ok_iff {file : FetchedFile} :
    (c.getFile id n).1 = .ok file ↔ ∃ payload bytes, Fetches id c n payload bytes ∧
      file = ⟨payload.filename, payload.contentType, bytes⟩ := by
  have hbind : (c.getFile id n).1 =
      (c.call FilePayload.ofJson "get_file" (.str id) n).1 >>= RpcClient.openPayload := rfl
  simp only [hbind, Json.bind_eq_ok_iff, openPayload_eq_ok_iff, Fetches, and_assoc,
    exists_and_left]

theorem download_of_blank (h : Text.trim id = "") :
    download disk id dir c n = (.error (.plain "Please enter a file ID"), c, n) := by
  rw [download, h]
  rfl

/-- Where an id is given, the store and then the disk decide how a download ends. -/
theorem fst_download (hid : Text.trim id ≠ "") :
    (download disk id dir c n).1 =
      match (c.getFile (Text.trim id) n).1 with
      | .error f => .error (.caused ("Download of " ++ Text.trim id ++ " failed") f.message)
      | .ok file =>
        let target := dir.join (targetName file.filename (Text.trim id))
        match disk.write target file.bytes with
        | .error fault => .error (.caused ("Failed to write " ++ target.quoted) fault.message)
        | .ok disk' => .ok (target, disk') := by
  rw [download]
  dsimp only
  rw [if_neg (by rwa [String.isEmpty_iff])]
  generalize c.getFile (Text.trim id) n = got
  obtain ⟨result, c', n'⟩ := got
  cases result with
  | error f => rfl
  | ok file =>
    dsimp only
    cases disk.write (dir.join (targetName file.filename (Text.trim id))) file.bytes <;> rfl

theorem download_of_write {payload : FilePayload} {bytes : List UInt8}
    (hid : Text.trim id ≠ "") (h : Fetches (Text.trim id) c n payload bytes)
    (hwrite : disk.write (dir.join (targetName payload.filename (Text.trim id))) bytes =
      .ok disk') :
    (download disk id dir c n).1 =
      .ok (dir.join (targetName payload.filename (Text.trim id)), disk') := by
  rw [fst_download hid, getFile_eq_ok_iff.mpr ⟨payload, bytes, h, rfl⟩]
  dsimp only
  rw [hwrite]

/-- A download comes to something only if the store gives the file and the disk takes it. -/
theorem exists_of_download_eq_ok (h : (download disk id dir c n).1 = .ok (target, disk')) :
    ∃ payload bytes, Fetches (Text.trim id) c n payload bytes ∧
      target = dir.join (targetName payload.filename (Text.trim id)) ∧
      disk.write target bytes = .ok disk' := by
  have hid : Text.trim id ≠ "" := by
    intro hblank
    rw [download_of_blank hblank] at h
    cases h
  rw [fst_download hid] at h
  split at h
  · cases h
  next file hfile =>
  obtain ⟨payload, bytes, hfetches, rfl⟩ := getFile_eq_ok_iff.mp hfile
  dsimp only at h
  split at h
  · cases h
  next after hwrite =>
  obtain ⟨rfl, rfl⟩ := Prod.mk.inj (Except.ok.inj h)
  exact ⟨payload, bytes, hfetches, rfl, hwrite⟩

/-- What the store gives is put at a place, which is a direct child of the directory, and nothing
else on the disk is another. -/
def Saves (id : String) (c : RpcClient) (n : Network) (disk disk' : Disk) (dir target : Place) :
    Prop :=
  ∃ name payload bytes, IsChildName name ∧ target = dir.join name ∧
    target.parts = dir.parts ++ [name] ∧ Fetches id c n payload bytes ∧
    AddsChild disk disk' dir name bytes

theorem saves_of_download (h : (download disk id dir c n).1 = .ok (target, disk')) :
    Saves (Text.trim id) c n disk disk' dir target := by
  obtain ⟨payload, bytes, hfetches, rfl, hwrite⟩ := exists_of_download_eq_ok h
  have hname := isChildName_targetName payload.filename (Text.trim id)
  obtain ⟨gap, hjoin⟩ := hname.join_eq dir
  exact ⟨_, payload, bytes, hname, rfl, by rw [hjoin], hfetches, hname.addsChild_of_write hwrite⟩

/-- The command ends in trouble with the disk as it was, or tells where it has saved the file. -/
theorem download_command_cases (config : Config) :
    (∃ t, (Cli.download config id dir disk n).result = .error t ∧
        (Cli.download config id dir disk n).disk = disk) ∨
      ∃ c target, Cli.filesClient config = .ok c ∧
        (Cli.download config id dir disk n).result = .ok ("Saved " ++ target.text ++ "\n") ∧
        Saves (Text.trim id) c n disk (Cli.download config id dir disk n).disk dir target := by
  rw [Cli.download]
  cases hclient : Cli.filesClient config with
  | error t => exact .inl ⟨t, rfl, rfl⟩
  | ok c =>
    dsimp only
    generalize hgot : download disk id dir c n = got
    obtain ⟨result, c', n'⟩ := got
    cases result with
    | error t => exact .inl ⟨t, rfl, rfl⟩
    | ok saved => exact .inr ⟨c, _, rfl, rfl, saves_of_download (congrArg Prod.fst hgot)⟩

/-- For a blank id nothing is sent. A download that comes to something has put what the store gives
at a direct child of the directory, under a name that can lead nowhere else, and has changed
nothing else; the command that ends in trouble leaves the disk as it was. -/
theorem download_confined (disk : Disk) (id : String) (dir : Place) (n : Network) :
    (∀ c, Text.trim id = "" →
        download disk id dir c n = (.error (.plain "Please enter a file ID"), c, n)) ∧
      (∀ c target disk', (download disk id dir c n).1 = .ok (target, disk') →
        Saves (Text.trim id) c n disk disk' dir target) ∧
      ∀ config,
        (∃ t, (Cli.download config id dir disk n).result = .error t ∧
            (Cli.download config id dir disk n).disk = disk) ∨
          ∃ c target, Cli.filesClient config = .ok c ∧
            (Cli.download config id dir disk n).result = .ok ("Saved " ++ target.text ++ "\n") ∧
            Saves (Text.trim id) c n disk (Cli.download config id dir disk n).disk dir target :=
  ⟨fun _ => download_of_blank, fun _ _ _ => saves_of_download, download_command_cases⟩

/-- The reply of a store that calls a file by a path out of every directory. -/
def dotsReply : String :=
  "\x7b\"result\":\x7b\"filename\":\"..\\\\../../etc/ passwd \",\"data\":\"AP8Q\"\x7d,\"id\":0\x7d"

theorem download_confined_dots :
    ∃ disk', (download ⟨[(["d"], .directory)]⟩ " 7 " ⟨"/d", ["d"]⟩ ⟨Source.nearbyUrl, 0⟩
        (Source.replying 200 dotsReply)).1 = .ok (⟨"/d/passwd", ["d", "passwd"]⟩, disk') ∧
      Saves (Text.trim " 7 ") ⟨Source.nearbyUrl, 0⟩ (Source.replying 200 dotsReply)
        ⟨[(["d"], .directory)]⟩ disk' ⟨"/d", ["d"]⟩ ⟨"/d/passwd", ["d", "passwd"]⟩ := by
  have hplace : ((download ⟨[(["d"], .directory)]⟩ " 7 " ⟨"/d", ["d"]⟩ ⟨Source.nearbyUrl, 0⟩
      (Source.replying 200 dotsReply)).1.toOption.map (·.1)) =
      some ⟨"/d/passwd", ["d", "passwd"]⟩ := by
    decide +kernel
  obtain ⟨⟨place, disk'⟩, hsaved, rfl⟩ := Option.map_eq_some_iff.mp hplace
  have hdownload := Json.toOption_eq_some_iff.mp hsaved
  obtain ⟨-, hsaves, -⟩ := download_confined ⟨[(["d"], .directory)]⟩ " 7 " ⟨"/d", ["d"]⟩
    (Source.replying 200 dotsReply)
  exact ⟨disk', hdownload, hsaves _ _ _ hdownload⟩

end Files

end FeedExplorer
