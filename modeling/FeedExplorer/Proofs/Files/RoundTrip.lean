import FeedExplorer.Proofs.Files.Content
import FeedExplorer.Proofs.Files.Download
import FeedExplorer.Proofs.Files.Record
import FeedExplorer.Proofs.Net.Sending
import FeedExplorer.Proofs.Source.Outcome

/-!
# From one disk to another

A store keeps the contents that an upload sends to it, and hands them out again, bare or behind the
head of a data address. Main statement: what a download then writes has the bytes that the upload
has read.
-/

namespace FeedExplorer

namespace Files

open Disk (Place)
open Json (valuesUnder)
open Net (Network)
open Source (Envelope RpcCall RpcClient)

variable {disk : Disk} {path : Place} {name : String} {bytes : List UInt8} {c : RpcClient}
  {n : Network}

/-! ## What an upload sends -/

/-- The text of a request asks the store to keep some contents under a name. -/
def Deposits (r : Net.Request) (name data : String) : Prop :=
  ∃ body members params, r.body = some body ∧
    Json.parse (Json.render body) = .ok (.obj members) ∧
    valuesUnder ["method"] members = [.str "upload_file"] ∧
    valuesUnder ["params"] members = [.obj params] ∧
    valuesUnder ["filename"] params = [.str name] ∧ valuesUnder ["data"] params = [.str data]

/-- The body that goes with a file. -/
def uploadBody (count : Nat) (name : String) (bytes : List UInt8) : Json :=
  RpcClient.callBody count "upload_file" (RpcClient.uploadParams name bytes)

theorem parse_uploadBody {count : Nat} (hcount : count < UInt64.size) (name : String)
    (bytes : List UInt8) :
    Json.parse (Json.render (uploadBody count name bytes)) = .ok (uploadBody count name bytes) := by
  have hfits : Json.Fits64 count := by
    simpa [UInt64.toNat_ofNat_of_lt' hcount] using Json.fits64_word (UInt64.ofNat count)
  refine Json.parse_render ?_ ?_
  · simp [uploadBody, RpcClient.callBody, RpcClient.uploadParams, Json.Faithful,
      Json.FaithfulMembers, hfits]
  · simp [uploadBody, RpcClient.callBody, RpcClient.uploadParams, Json.Within, Json.WithinMembers,
      Json.maxDepth]

theorem deposits_iff {r : Net.Request} {count : Nat} (hcount : count < UInt64.size)
    (hr : r.body = some (uploadBody count name bytes)) {given kept : String} :
    Deposits r given kept ↔ given = name ∧ kept = Base64.encode bytes := by
  have hparse := parse_uploadBody hcount name bytes
  constructor
  · rintro ⟨body, members, params, hbody, hmembers, -, hparams, hgiven, hkept⟩
    obtain rfl := Option.some.inj (hr.symm.trans hbody)
    obtain rfl := Json.obj.inj (Except.ok.inj (hparse.symm.trans hmembers))
    obtain rfl : [_, _] = params := by simpa [valuesUnder, RpcClient.uploadParams] using hparams
    exact ⟨by simpa [valuesUnder, eq_comm] using hgiven,
      by simpa [valuesUnder, eq_comm] using hkept⟩
  · rintro ⟨rfl, rfl⟩
    exact ⟨_, _, _, hr, hparse, by simp [valuesUnder], by simp [valuesUnder]; rfl,
      by simp [valuesUnder], by simp [valuesUnder]⟩

theorem upload_of_no_fileName (h : path.fileName? = none) :
    (upload disk path c n).2.2 = n := by
  rw [upload, h]

/-- Nothing but the call for the upload is made. -/
theorem upload_requests (hname : path.fileName? = some name) (hread : disk.read path = .ok bytes) :
    (upload disk path c n).2.2.requests = (c.upload name bytes n).2.2.requests := by
  rw [upload, hname]
  dsimp only
  rw [hread]
  dsimp only
  generalize c.upload name bytes n = got
  obtain ⟨result, c', n'⟩ := got
  cases result <;> rfl

/-- What an upload sends deposits the bytes of the file and nothing else. -/
theorem exists_sent_of_upload (hread : disk.read path = .ok bytes)
    (hcount : c.nextId < UInt64.size) :
    ∃ sent, (upload disk path c n).2.2.requests = n.requests ++ sent ∧
      (∀ name, path.fileName? = some name → c.url.isWeb = true → n.reaches c.url = true →
        ∃ r ∈ sent, Deposits r name (Base64.encode bytes)) ∧
      ∀ r ∈ sent, ∀ name kept, Deposits r name kept → kept = Base64.encode bytes := by
  cases hname : path.fileName? with
  | none => exact ⟨[], by simp [upload_of_no_fileName hname], nofun, nofun⟩
  | some name =>
    obtain ⟨e, hcall⟩ := RpcClient.exists_call_eq StoredFile.ofJson "upload_file"
      (RpcClient.uploadParams name bytes) c n
    have hrequests : (upload disk path c n).2.2.requests = (Net.request .post
        (some (uploadBody c.nextId name bytes)) c.url (n.note e)).2.requests :=
      (upload_requests hname hread).trans (congrArg Network.requests hcall)
    obtain ⟨sent, hsent, hbodies⟩ := Net.exists_sent Net.maxRedirects .post
      (some (uploadBody c.nextId name bytes)) c.url (n.note e)
    refine ⟨sent, hrequests.trans hsent, ?_, ?_⟩
    · rintro _ ⟨⟩ hweb hreach
      rw [← Net.reaches_note n e] at hreach
      obtain ⟨later, hlater⟩ := Net.exists_sent_of_reached Net.maxRedirects .post
        (some (uploadBody c.nextId name bytes)) hweb hreach
      obtain rfl := List.append_cancel_left (hsent.symm.trans hlater)
      exact ⟨_, List.mem_cons_self, (deposits_iff hcount rfl).mpr ⟨rfl, rfl⟩⟩
    · intro r hr given kept hdeposits
      rcases hbodies r hr with hbody | hbody
      · exact ((deposits_iff hcount hbody).mp hdeposits).2
      · obtain ⟨body, -, -, hsome, -⟩ := hdeposits
        rw [hbody] at hsome
        cases hsome

/-! ## What a download writes -/

/-- The store replies to the call for a file with a result that tells of a payload, embedded texts
having been opened. -/
def Replies (id : String) (c : RpcClient) (n : Network) (payload : FilePayload) : Prop :=
  ∃ body raw result, ((RpcCall.getFile id).ending c n).successBody? = some body ∧
    Envelope.parse body = .ok (.single (.result raw)) ∧
    Json.parseOpened (String.ofList raw) = .ok result ∧ TellsPayload result payload

/-- Where the text of the reply is that of a value, its members tell the result. -/
theorem replies_of_value {id body : String} {v result opened : Json} {payload : FilePayload}
    (hbody : ((RpcCall.getFile id).ending c n).successBody? = some body)
    (hv : Json.parse body = .ok v) (hresult : Envelope.TellsResult v result)
    (hopened : result.opened? = some opened) (hpayload : TellsPayload opened payload) :
    Replies id c n payload := by
  obtain ⟨raw, hraw, hparse⟩ := ((Envelope.parse_of_value hv).2.2 result).mpr hresult
  have hread : Json.parseOpened (String.ofList raw) = .ok opened :=
    Json.parseOpened_eq_ok_iff.mpr ⟨result, hparse, hopened⟩
  exact ⟨body, raw, opened, hbody, hraw, hread, hpayload⟩

theorem Replies.fetches {id : String} {payload : FilePayload} (h : Replies id c n payload)
    (hdata : decodeContent payload.data = .ok bytes) : Fetches id c n payload bytes := by
  obtain ⟨body, raw, result, hbody, hraw, hresult, htells⟩ := h
  have hopen : RpcClient.openEnvelope body = .ok result.canonical :=
    Source.openEnvelope_eq_ok_iff.mpr ⟨raw, result, hraw, hresult, rfl⟩
  have hpayload := (FilePayload.reads_ofJson _ _).mpr htells.canonical
  have hnull : ¬ result.canonical.isNull = true := by
    intro hnull
    cases hcanonical : result.canonical with
    | null =>
      rw [hcanonical] at hpayload
      cases hpayload
    | _ => simp [hcanonical, Json.isNull] at hnull
  refine ⟨?_, hdata⟩
  rw [RpcCall.fst_call]
  refine (Source.settle_of_successBody _ _ hbody).trans ?_
  rw [hopen, Json.ok_bind, RpcClient.decodeResult, if_neg hnull, hpayload]

/-- Every request of an upload that deposits something deposits the bytes of the file, and there is
one if the server is there. Where what was deposited comes back as the contents of a payload, a
download writes the bytes of the file, whatever the payload is called. -/
theorem download_undoes_upload (hread : disk.read path = .ok bytes)
    (hcount : c.nextId < UInt64.size) :
    ∃ sent, (upload disk path c n).2.2.requests = n.requests ++ sent ∧
      (∀ name, path.fileName? = some name → c.url.isWeb = true → n.reaches c.url = true →
        ∃ r ∈ sent, Deposits r name (Base64.encode bytes)) ∧
      ∀ r ∈ sent, ∀ name kept, Deposits r name kept →
        ∀ (disk' : Disk) (id : String) (dir : Place) (c' : RpcClient) (n' : Network)
          (payload : FilePayload), Replies (Text.trim id) c' n' payload →
          Carries payload.data kept →
            (Text.trim id ≠ "" → ∀ after,
              disk'.write (dir.join (targetName payload.filename (Text.trim id))) bytes =
                .ok after →
              (download disk' id dir c' n').1 =
                .ok (dir.join (targetName payload.filename (Text.trim id)), after)) ∧
            ∀ target after, (download disk' id dir c' n').1 = .ok (target, after) →
              after.read target = .ok bytes := by
  obtain ⟨sent, hsent, hfirst, hkept⟩ := exists_sent_of_upload (n := n) hread hcount
  refine ⟨sent, hsent, hfirst, ?_⟩
  intro r hr name kept hdeposits disk' id dir c' n' payload hreplies hcarries
  obtain rfl := hkept r hr name kept hdeposits
  have hfetches := hreplies.fetches (decodeContent_of_carries hcarries)
  constructor
  · exact fun hid _ => download_of_write hid hfetches
  · intro target after hdownload
    obtain ⟨payload', bytes', ⟨hpayload, hbytes⟩, rfl, hwrite⟩ :=
      exists_of_download_eq_ok hdownload
    obtain rfl := Except.ok.inj (hfetches.1.symm.trans hpayload)
    obtain rfl := Except.ok.inj (hfetches.2.symm.trans hbytes)
    exact (Disk.read_of_write hwrite).2

/-- A file of three bytes, not all of which have a letter. -/
def smallDisk : Disk :=
  ⟨[(["d"], .directory), (["d", "a.bin"], .file [0, 255, 16])]⟩

/-- The reply of a store that has kept the file, and calls it by a path. -/
def keptReply : String :=
  "\x7b\"result\":\x7b\"data\":\"data:a/b;base64,AP8Q\",\"filename\":\"../x\"\x7d,\"id\":0\x7d"

/-- The value that the reply spells. -/
def keptValue : Json :=
  .obj [("result", .obj [("data", .str "data:a/b;base64,AP8Q"), ("filename", .str "../x")]),
    ("id", .int 0)]

theorem parse_keptReply : Json.parse keptReply = .ok keptValue := by
  have hspells : keptReply = Json.render keptValue := by decide +kernel
  have hfits : Json.Fits64 0 := Json.fits64_word 0
  rw [hspells]
  refine Json.parse_render ?_ ?_
  · simp [keptValue, Json.Faithful, Json.FaithfulMembers, hfits]
  · simp [keptValue, Json.Within, Json.WithinMembers, Json.maxDepth]

theorem replies_keptReply : Replies "7" ⟨Source.nearbyUrl, 0⟩ (Source.replying 200 keptReply)
    ⟨"../x", "", "data:a/b;base64,AP8Q"⟩ := by
  refine replies_of_value (by decide +kernel) parse_keptReply ⟨_, rfl, rfl, rfl, ?_⟩
    (Json.opened?_of_plain ?_) ⟨_, rfl, ⟨_, rfl, rfl⟩, .inl ⟨rfl, rfl⟩, ⟨_, rfl, rfl⟩⟩
  · exact .inr ⟨_, rfl, .inr (.inr ⟨0, rfl⟩)⟩
  · simp [Json.Plain, Json.PlainMembers, Json.Embeds, Json.embeddedKey]

theorem download_undoes_upload_small :
    smallDisk.read ⟨"/d/a.bin", ["d", "a.bin"]⟩ = .ok [0, 255, 16] ∧ 0 < UInt64.size ∧
      ∃ after, (download smallDisk "7" ⟨"/d", ["d"]⟩ ⟨Source.nearbyUrl, 0⟩
          (Source.replying 200 keptReply)).1 = .ok (⟨"/d/x", ["d", "x"]⟩, after) ∧
        after.read ⟨"/d/x", ["d", "x"]⟩ = .ok [0, 255, 16] := by
  have hread : smallDisk.read ⟨"/d/a.bin", ["d", "a.bin"]⟩ = .ok [0, 255, 16] := by decide +kernel
  have hcount : 0 < UInt64.size := by decide
  obtain ⟨sent, -, hfirst, hkept⟩ := download_undoes_upload (c := ⟨Source.nearbyUrl, 0⟩)
    (n := Source.replying 200 keptReply) hread hcount
  obtain ⟨r, hr, hdeposits⟩ := hfirst "a.bin" (by decide +kernel) (by decide +kernel)
    (by decide +kernel)
  have hcarries : Carries "data:a/b;base64,AP8Q" (Base64.encode [0, 255, 16]) :=
    .inr ⟨"a/b", by decide, by decide +kernel⟩
  have hid : Text.trim "7" = "7" := by decide +kernel
  have htarget : Place.join ⟨"/d", ["d"]⟩ (targetName "../x" (Text.trim "7")) =
      ⟨"/d/x", ["d", "x"]⟩ := by decide +kernel
  have hwrite : smallDisk.write ⟨"/d/x", ["d", "x"]⟩ [0, 255, 16] =
      .ok (smallDisk.put ["d", "x"] (.file [0, 255, 16])) :=
    Disk.write_eq_ok_iff.mpr ⟨["d", "x"], by decide +kernel, by decide +kernel, rfl⟩
  obtain ⟨hwrites, hbytes⟩ := hkept r hr _ _ hdeposits smallDisk "7" ⟨"/d", ["d"]⟩ _ _ _
    (hid.symm ▸ replies_keptReply) hcarries
  have hdownload := hwrites (by rw [hid]; decide) _ (htarget.symm ▸ hwrite)
  rw [htarget] at hdownload
  exact ⟨hread, hcount, _, hdownload, hbytes _ _ hdownload⟩

end Files

end FeedExplorer
