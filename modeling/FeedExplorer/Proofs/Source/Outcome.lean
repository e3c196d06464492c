import FeedExplorer.Proofs.Json.Sorting
import FeedExplorer.Proofs.Source.Envelope
import FeedExplorer.Source.Client

/-!
# How a call ends

Which of the three failures, or which result, comes of a call, told by what the network has to say
in the end. Main statements: the four outcomes of a call by remote procedures, and the three of a
plain request, each with the exact condition for it.
-/

namespace FeedExplorer

namespace Net

/-- The status and the body of the reply, if there is one. -/
def Ending.reply? : Ending → Option (Nat × Body)
  | .response status body => some (status, body)
  | _ => none

/-- The text of a reply that has come to its end and whose status tells of success. -/
def Ending.successBody? : Ending → Option String
  | .response status (.whole text) => if isSuccess status then some text else none
  | _ => none

theorem isError_iff {status : Nat} : isError status = true ↔ 400 ≤ status ∧ status < 600 := by
  simp [isError]

section note

variable (n : Network) (e : Log.Event)

theorem reaches_note (u : Url) : (n.note e).reaches u = n.reaches u := rfl

theorem take_note (r : Request) : (n.note e).take r = ((n.take r).1, (n.take r).2.note e) := by
  obtain ⟨server, replies, requests, log⟩ := n
  cases replies <;> rfl

/-- What is written down in the log makes no difference to what is sent and answered. -/
theorem send_note (fuel : Nat) (method : Method) (body : Option Json) (u : Url) :
    (send fuel method body u (n.note e)).1 = (send fuel method body u n).1 := by
  induction fuel generalizing method body u n with
  | zero =>
    rw [send, send, reaches_note, take_note]
    split
    · rfl
    split
    · rfl
    rcases n.take { method, target := u.target, body } with ⟨_ | _ | _, n'⟩
    · dsimp only
      split <;> rfl
    · rfl
    · rfl
  | succ fuel ih =>
    rw [send, send, reaches_note, take_note]
    split
    · rfl
    split
    · rfl
    rcases n.take { method, target := u.target, body } with ⟨_ | _ | _, n'⟩
    · dsimp only
      split
      · exact ih _ _ _ _
      · rfl
    · rfl
    · rfl

theorem request_note (method : Method) (body : Option Json) (u : Url) :
    (request method body u (n.note e)).1 = (request method body u n).1 :=
  send_note n e _ method body u

end note

end Net

namespace Source

open Chain (Block Failure Snapshot)
open Json (Mismatch)
open Net (Ending Network)

/-! ## Calls by remote procedures -/

inductive RpcCall where
  | fetch
  | mint
  | upload (filename : String) (bytes : List UInt8)
  | getFile (id : String)

namespace RpcCall

abbrev Result : RpcCall → Type
  | fetch => Snapshot
  | mint => Block
  | upload _ _ => Files.StoredFile
  | getFile _ => Files.FetchedFile

def run : (k : RpcCall) → RpcClient → Network → Except Failure k.Result × RpcClient × Network
  | fetch => RpcClient.fetch
  | mint => RpcClient.mint
  | upload filename bytes => RpcClient.upload filename bytes
  | getFile id => RpcClient.getFile id

def method : RpcCall → String
  | fetch => "get_latest_block"
  | mint => "create_block"
  | upload _ _ => "upload_file"
  | getFile _ => "get_file"

def params : RpcCall → Json
  | fetch => .arr []
  | mint => .arr []
  | upload filename bytes => RpcClient.uploadParams filename bytes
  | getFile id => .str id

/-- A file with its contents, where they are base64. -/
def fetchedFile? (p : Files.FilePayload) : Option Files.FetchedFile :=
  (Files.decodeContent p.data).toOption.map fun bytes =>
    { filename := p.filename, contentType := p.contentType, bytes }

/-- What a value means as the result of the call. -/
def payload? : (k : RpcCall) → Json → Option k.Result
  | fetch, v => (Snapshot.ofJson v).toOption
  | mint, v => (Chain.mintedBlock v).toOption
  | upload _ _, v => (Files.StoredFile.ofJson v).toOption
  | getFile _, v => (Files.FilePayload.ofJson v).toOption.bind fetchedFile?

/-- What the network has to say in the end, redirections having been followed. -/
def ending (k : RpcCall) (c : RpcClient) (n : Network) : Ending :=
  (Net.request .post (some (RpcClient.callBody c.nextId k.method k.params)) c.url n).1

end RpcCall

/-- The text is a list of answers, as if there had been several calls. -/
def RepliesBatch (body : String) : Prop :=
  ∃ answers, Envelope.parse body = .ok (.batch answers)

/-- The text refuses the call with a code and some words. -/
def RepliesError (body : String) (code : Int) (text : String) : Prop :=
  Envelope.parse body = .ok (.single (.error code text))

/-- The text gives the call a result, in which embedded texts have been opened and the members
sorted. -/
def RepliesResult (body : String) (w : Json) : Prop :=
  ∃ raw v, Envelope.parse body = .ok (.single (.result raw)) ∧
    Json.parseOpened (String.ofList raw) = .ok v ∧ w = v.canonical

section envelope

variable {body : String}

section value

variable {v : Json} (h : Json.parse body = .ok v)

include h

theorem repliesBatch_iff : RepliesBatch body ↔ Envelope.IsBatch v :=
  (Envelope.parse_of_value h).1

theorem repliesError_iff {code : Int} {text : String} :
    RepliesError body code text ↔ Envelope.TellsError v code text :=
  (Envelope.parse_of_value h).2.1 code text

theorem repliesResult_iff {w : Json} :
    RepliesResult body w ↔ ∃ result opened, Envelope.TellsResult v result ∧
      result.opened? = some opened ∧ w = opened.canonical := by
  simp only [RepliesResult, ← (Envelope.parse_of_value h).2.2, Json.parseOpened_eq_ok_iff]
  constructor
  · rintro ⟨raw, opened, hraw, ⟨result, hresult, hopened⟩, hw⟩
    exact ⟨result, opened, ⟨raw, hraw, hresult⟩, hopened, hw⟩
  · rintro ⟨result, opened, ⟨raw, hraw, hresult⟩, hopened, hw⟩
    exact ⟨raw, opened, hraw, ⟨result, hresult, hopened⟩, hw⟩

theorem forall_repliesResult_iff {P : Json → Prop} :
    (∀ w, RepliesResult body w → P w) ↔ ∀ result opened, Envelope.TellsResult v result →
      result.opened? = some opened → P opened.canonical := by
  simp only [repliesResult_iff h]
  constructor
  · intro hP result opened hresult hopened
    exact hP _ ⟨result, opened, hresult, hopened, rfl⟩
  · rintro hP _ ⟨result, opened, hresult, hopened, rfl⟩
    exact hP result opened hresult hopened

end value

theorem openEnvelope_eq_ok_iff {w : Json} :
    RpcClient.openEnvelope body = .ok w ↔ RepliesResult body w := by
  unfold RpcClient.openEnvelope RepliesResult
  split
  · simp [*]
  · simp [*]
  · simp [*]
  · rename_i raw hraw
    cases hparse : Json.parseOpened (String.ofList raw) <;> simp [hraw, hparse, eq_comm]

theorem openEnvelope_eq_refused_iff {code : Int} {text : String} :
    RpcClient.openEnvelope body = .error (.refused code text) ↔ RepliesError body code text := by
  unfold RpcClient.openEnvelope RepliesError
  split
  · simp [*]
  · simp [*]
  · simp [*]
  · split <;> simp [*]

theorem openEnvelope_eq_transport_iff :
    (∃ text, RpcClient.openEnvelope body = .error (.transport text)) ↔ RepliesBatch body := by
  unfold RpcClient.openEnvelope RepliesBatch
  split
  · simp [*]
  · simp [*]
  · simp [*]
  · split <;> simp [*]

end envelope

section settle

variable {α : Type} (decode : Json → Except Mismatch α) (method : String) {e : Ending}

theorem settle_of_successBody {body : String} (h : e.successBody? = some body) :
    RpcClient.settle decode method e =
      RpcClient.openEnvelope body >>= RpcClient.decodeResult decode method := by
  cases e with
  | response status content =>
    cases content with
    | whole text =>
      simp only [Ending.successBody?] at h
      split at h
      · obtain rfl := Option.some.inj h
        simp only [RpcClient.settle, *, if_true]
      · cases h
    | broken => cases h
    | stalled => cases h
  | failed text => cases h
  | timedOut text => cases h

theorem settle_of_successBody_eq_none (h : e.successBody? = none) :
    ∃ text, RpcClient.settle decode method e = .error (.transport text) := by
  cases e with
  | response status content =>
    cases content with
    | whole text =>
      simp only [Ending.successBody?] at h
      split at h
      · cases h
      · exact ⟨_, by simp only [RpcClient.settle, *]; rfl⟩
    | broken => exact ⟨_, rfl⟩
    | stalled => exact ⟨_, rfl⟩
  | failed text => exact ⟨_, rfl⟩
  | timedOut text => exact ⟨_, rfl⟩

theorem decodeResult_toOption (w : Json) :
    (RpcClient.decodeResult decode method w).toOption =
      if w.isNull then none else (decode w).toOption := by
  rw [RpcClient.decodeResult]
  split
  · rfl
  · cases decode w <;> rfl

theorem malformed_of_decodeResult {w : Json} {f : Failure}
    (h : RpcClient.decodeResult decode method w = .error f) : ∃ text, f = .malformed text := by
  rw [RpcClient.decodeResult] at h
  split at h
  · exact ⟨_, (Except.error.inj h).symm⟩
  · cases hw : decode w with
    | ok a => simp [hw] at h
    | error m =>
      rw [hw] at h
      exact ⟨_, (Except.error.inj h).symm⟩

end settle

theorem openPayload_toOption (p : Files.FilePayload) :
    (RpcClient.openPayload p).toOption = RpcCall.fetchedFile? p := by
  rw [RpcClient.openPayload, RpcCall.fetchedFile?]
  cases Files.decodeContent p.data <;> rfl

theorem malformed_of_openPayload {p : Files.FilePayload} {f : Failure}
    (h : RpcClient.openPayload p = .error f) : ∃ text, f = .malformed text := by
  rw [RpcClient.openPayload] at h
  cases hp : Files.decodeContent p.data with
  | ok bytes => simp [hp] at h
  | error fault =>
    rw [hp] at h
    exact ⟨_, (Except.error.inj h).symm⟩

namespace RpcCall

variable (k : RpcCall) (c : RpcClient) (n : Network)

/-- What is made of the result of the call, as it came in its envelope. -/
def finish : (k : RpcCall) → Json → Except Failure k.Result
  | fetch => RpcClient.decodeResult Snapshot.ofJson "get_latest_block"
  | mint => RpcClient.decodeResult Chain.mintedBlock "create_block"
  | upload _ _ => RpcClient.decodeResult Files.StoredFile.ofJson "upload_file"
  | getFile _ => fun w =>
    RpcClient.decodeResult Files.FilePayload.ofJson "get_file" w >>= RpcClient.openPayload

theorem finish_eq_ok_iff {w : Json} {a : k.Result} :
    k.finish w = .ok a ↔ w ≠ .null ∧ k.payload? w = some a := by
  have hnull : w.isNull = true ↔ w = .null := by cases w <;> simp [Json.isNull]
  rw [← Json.toOption_eq_some_iff, ne_eq, ← hnull]
  cases k with
  | getFile id =>
    simp only [finish, Json.toOption_bind, decodeResult_toOption, openPayload_toOption]
    split <;> simp_all [payload?]
  | _ =>
    simp only [finish, decodeResult_toOption]
    split <;> simp_all [payload?]

theorem malformed_of_finish {w : Json} {f : Failure} (h : k.finish w = .error f) :
    ∃ text, f = .malformed text := by
  cases k with
  | getFile id =>
    simp only [finish] at h
    cases hp : RpcClient.decodeResult Files.FilePayload.ofJson "get_file" w with
    | ok p =>
      rw [hp] at h
      exact malformed_of_openPayload h
    | error e =>
      rw [hp] at h
      obtain rfl := Except.error.inj h
      exact malformed_of_decodeResult _ _ hp
  | _ => exact malformed_of_decodeResult _ _ h

/-- What the end of the exchange means for the call. -/
def settle : (k : RpcCall) → Ending → Except Failure k.Result
  | fetch => RpcClient.settle Snapshot.ofJson "get_latest_block"
  | mint => RpcClient.settle Chain.mintedBlock "create_block"
  | upload _ _ => RpcClient.settle Files.StoredFile.ofJson "upload_file"
  | getFile _ => fun e =>
    RpcClient.settle Files.FilePayload.ofJson "get_file" e >>= RpcClient.openPayload

theorem fst_call {α : Type} (decode : Json → Except Mismatch α) (method : String) (params : Json) :
    (c.call decode method params n).1 = RpcClient.settle decode method
      (Net.request .post (some (RpcClient.callBody c.nextId method params)) c.url n).1 :=
  congrArg (RpcClient.settle decode method) (Net.request_note n _ _ _ _)

theorem fst_run : (k.run c n).1 = k.settle (k.ending c n) := by
  cases k with
  | getFile id =>
    exact congrArg (· >>= RpcClient.openPayload)
      (fst_call c n Files.FilePayload.ofJson "get_file" (.str id))
  | _ => exact fst_call c n _ _ _

theorem settle_eq_of_successBody {e : Ending} {body : String} (h : e.successBody? = some body) :
    k.settle e = RpcClient.openEnvelope body >>= k.finish := by
  cases k with
  | getFile id =>
    simp only [settle, finish, settle_of_successBody _ _ h]
    cases RpcClient.openEnvelope body <;> rfl
  | _ => exact settle_of_successBody _ _ h

theorem settle_eq_of_no_successBody {e : Ending} (h : e.successBody? = none) :
    ∃ text, k.settle e = .error (.transport text) := by
  cases k with
  | getFile id =>
    obtain ⟨text, htext⟩ := settle_of_successBody_eq_none Files.FilePayload.ofJson "get_file" h
    exact ⟨text, by simp only [settle, htext]; rfl⟩
  | _ => exact settle_of_successBody_eq_none _ _ h

section bind

variable {k} {body : String}

theorem bind_eq_transport_iff :
    (∃ text, RpcClient.openEnvelope body >>= k.finish = .error (.transport text)) ↔
      RepliesBatch body := by
  rw [← openEnvelope_eq_transport_iff]
  refine exists_congr fun text => ?_
  cases RpcClient.openEnvelope body with
  | error f => simp [bind, Except.bind]
  | ok w =>
    refine iff_of_false (fun h => ?_) nofun
    obtain ⟨_, h⟩ := k.malformed_of_finish h
    cases h

theorem bind_eq_refused_iff {code : Int} {text : String} :
    RpcClient.openEnvelope body >>= k.finish = .error (.refused code text) ↔
      RepliesError body code text := by
  rw [← openEnvelope_eq_refused_iff]
  cases RpcClient.openEnvelope body with
  | error f => simp [bind, Except.bind]
  | ok w =>
    refine iff_of_false (fun h => ?_) nofun
    obtain ⟨_, h⟩ := k.malformed_of_finish h
    cases h

theorem bind_eq_ok_iff {a : k.Result} :
    RpcClient.openEnvelope body >>= k.finish = .ok a ↔
      ∃ w, RepliesResult body w ∧ w ≠ .null ∧ k.payload? w = some a := by
  simp only [← openEnvelope_eq_ok_iff, ← k.finish_eq_ok_iff]
  cases RpcClient.openEnvelope body with
  | error f => simp [bind, Except.bind]
  | ok w => simp [bind, Except.bind]

theorem bind_eq_malformed_iff :
    (∃ text, RpcClient.openEnvelope body >>= k.finish = .error (.malformed text)) ↔
      ¬ RepliesBatch body ∧ (∀ code text, ¬ RepliesError body code text) ∧
        ∀ w, RepliesResult body w → w = .null ∨ k.payload? w = none := by
  constructor
  · rintro ⟨text, h⟩
    refine ⟨fun hbatch => ?_, fun code words herror => ?_, fun w hw => ?_⟩
    · obtain ⟨_, htransport⟩ := (bind_eq_transport_iff (k := k)).mpr hbatch
      simp [htransport] at h
    · simp [(bind_eq_refused_iff (k := k)).mpr herror] at h
    · by_contra hne
      obtain ⟨hnull, hpayload⟩ := not_or.mp hne
      obtain ⟨a, ha⟩ := Option.ne_none_iff_exists'.mp hpayload
      simp [bind_eq_ok_iff.mpr ⟨w, hw, hnull, ha⟩] at h
  · rintro ⟨hbatch, herror, hresult⟩
    cases h : RpcClient.openEnvelope body >>= k.finish with
    | ok a =>
      obtain ⟨w, hw, hnull, hpayload⟩ := bind_eq_ok_iff.mp h
      rcases hresult w hw with hw | hw
      · exact absurd hw hnull
      · simp [hw] at hpayload
    | error f =>
      cases f with
      | transport text => exact absurd (bind_eq_transport_iff.mp ⟨text, h⟩) hbatch
      | refused code text => exact absurd (bind_eq_refused_iff.mp h) (herror code text)
      | malformed text => exact ⟨text, rfl⟩

end bind

end RpcCall

/-- How a call by remote procedures ends: without an answer that comes to its end, or with one
whose status tells of a failure, the transport has failed, and also when a list of answers comes
back; an error in the answer refuses the call with its code and words; a result that is there, is
not nothing and has the form of the payload is the result of the call; whatever else has come is
malformed. Where the text of the answer is that of a value, all this is told by the members of the
value and by what the result is once the texts embedded in it have been opened. -/
theorem rpc_outcome (k : RpcCall) (c : RpcClient) (n : Network) :
    ((∃ text, (k.run c n).1 = .error (.transport text)) ↔
        (k.ending c n).successBody? = none ∨
          ∃ body, (k.ending c n).successBody? = some body ∧ RepliesBatch body) ∧
      (∀ code text, (k.run c n).1 = .error (.refused code text) ↔
        ∃ body, (k.ending c n).successBody? = some body ∧ RepliesError body code text) ∧
      (∀ a, (k.run c n).1 = .ok a ↔
        ∃ body, (k.ending c n).successBody? = some body ∧
          ∃ w, RepliesResult body w ∧ w ≠ .null ∧ k.payload? w = some a) ∧
      ((∃ text, (k.run c n).1 = .error (.malformed text)) ↔
        ∃ body, (k.ending c n).successBody? = some body ∧ ¬ RepliesBatch body ∧
          (∀ code text, ¬ RepliesError body code text) ∧
          ∀ w, RepliesResult body w → w = .null ∨ k.payload? w = none) ∧
      ∀ body v, (k.ending c n).successBody? = some body → Json.parse body = .ok v →
        ((∃ text, (k.run c n).1 = .error (.transport text)) ↔ Envelope.IsBatch v) ∧
        (∀ code text, (k.run c n).1 = .error (.refused code text) ↔
          Envelope.TellsError v code text) ∧
        (∀ a, (k.run c n).1 = .ok a ↔ ∃ result opened, Envelope.TellsResult v result ∧
          result.opened? = some opened ∧ opened ≠ .null ∧
            k.payload? opened.canonical = some a) ∧
        ((∃ text, (k.run c n).1 = .error (.malformed text)) ↔ ¬ Envelope.IsBatch v ∧
          (∀ code text, ¬ Envelope.TellsError v code text) ∧
          ∀ result opened, Envelope.TellsResult v result → result.opened? = some opened →
            opened = .null ∨ k.payload? opened.canonical = none) := by
  rw [k.fst_run]
  cases hbody : (k.ending c n).successBody? with
  | none =>
    obtain ⟨text, h⟩ := k.settle_eq_of_no_successBody hbody
    simp [h]
  | some body =>
    rw [k.settle_eq_of_successBody hbody]
    simp only [RpcCall.bind_eq_transport_iff, RpcCall.bind_eq_refused_iff, RpcCall.bind_eq_ok_iff,
      RpcCall.bind_eq_malformed_iff]
    refine ⟨by simp, by simp, by simp, by simp, ?_⟩
    rintro _ v ⟨⟩ hv
    refine ⟨by simp [repliesBatch_iff hv], by simp [repliesError_iff hv], ?_, ?_⟩
    · simp [repliesResult_iff hv, Json.canonical_eq_null_iff, and_assoc]
    · simp [repliesBatch_iff hv, repliesError_iff hv, forall_repliesResult_iff hv,
        Json.canonical_eq_null_iff]

/-- The address of a server on the same machine. -/
def nearbyUrl : Url :=
  { scheme := "http", username := "", password := none, host := some (.name "localhost")
    port := none, path := .segments [""], query := none, fragment := none }

/-- A network where the nearby server has one reply to give. -/
def answering (status : Nat) (body : Net.Body) : Network :=
  { server := some (.name "localhost", 80), replies := [.answer status none body]
    requests := [], log := [] }

/-- The body of the one reply comes to its end. -/
def replying (status : Nat) (text : String) : Network :=
  answering status (.whole text)

/-- A list of answers, empty here, counts as a failed transport although the status tells of
success and the network has done its part. -/
theorem rpc_transport_of_empty_batch :
    (RpcCall.fetch.ending ⟨nearbyUrl, 0⟩ (replying 200 "[]")).successBody? = some "[]" ∧
      (RpcCall.fetch.run ⟨nearbyUrl, 0⟩ (replying 200 "[]")).1 =
        .error (.transport "received batch response from single request") := by
  refine ⟨?_, ?_⟩ <;> decide +kernel

/-! ## Plain requests -/

inductive RestCall where
  | fetch
  | mint

namespace RestCall

abbrev Result : RestCall → Type
  | fetch => Snapshot
  | mint => Block

def run : (k : RestCall) → RestClient → Network → Except Failure k.Result × Network
  | fetch => RestClient.fetch
  | mint => RestClient.mint

def method : RestCall → Net.Method
  | fetch => .get
  | mint => .post

/-- The name of the endpoint that is asked. -/
def endpoint : RestCall → String
  | fetch => "get_all_blocks"
  | mint => "create_block"

/-- What a value means as the answer. -/
def payload : (k : RestCall) → Json → Except Mismatch k.Result
  | fetch => Snapshot.ofJson
  | mint => Chain.mintedBlock

/-- The body comes to its end, and its text decodes to the result. -/
def Decodes (k : RestCall) (body : Net.Body) (a : k.Result) : Prop :=
  ∃ text v, body = .whole text ∧ Json.parse text = .ok v ∧ k.payload v = .ok a

/-- The reply that is received in the end, redirections having been followed. There is none when
the endpoint has no address. -/
def reply? (k : RestCall) (c : RestClient) (n : Network) : Option (Nat × Net.Body) :=
  (c.endpoint k.endpoint).toOption.bind fun u => (Net.request k.method none u n).1.reply?

section settle

variable {α : Type} (decode : Json → Except Mismatch α) {e : Ending}

theorem settle_of_reply {status : Nat} {body : Net.Body} (h : e.reply? = some (status, body)) :
    RestClient.settle decode e =
      if Net.isError status then .error (.transport ("HTTP " ++ Net.statusText status))
      else RestClient.readBody decode body := by
  cases e with
  | response s b =>
    obtain ⟨rfl, rfl⟩ := Prod.mk.inj (Option.some.inj h)
    rfl
  | failed text => cases h
  | timedOut text => cases h

theorem readBody_eq_ok_iff {body : Net.Body} {a : α} :
    RestClient.readBody decode body = .ok a ↔
      ∃ text v, body = .whole text ∧ Json.parse text = .ok v ∧ decode v = .ok a := by
  cases body with
  | whole text =>
    have hread : RestClient.readBody decode (.whole text) = .ok a ↔
        Json.decodeStraight decode text = .ok a := by
      rw [RestClient.readBody]
      cases Json.decodeStraight decode text <;> simp
    rw [hread, Json.decodeStraight_eq_ok_iff]
    simp
  | broken => simp [RestClient.readBody]
  | stalled => simp [RestClient.readBody]

/-- Reading the body comes to no other end. -/
theorem malformed_of_readBody {body : Net.Body} {f : Failure}
    (h : RestClient.readBody decode body = .error f) : ∃ text, f = .malformed text := by
  cases body with
  | whole text =>
    rw [RestClient.readBody] at h
    split at h
    · cases h
    · exact ⟨_, (Except.error.inj h).symm⟩
  | broken => exact ⟨_, (Except.error.inj h).symm⟩
  | stalled => exact ⟨_, (Except.error.inj h).symm⟩

theorem settle_of_no_reply (h : e.reply? = none) :
    ∃ text, RestClient.settle decode e = .error (.transport text) := by
  cases e with
  | response status body => cases h
  | failed text => exact ⟨text, rfl⟩
  | timedOut text => exact ⟨text, rfl⟩

end settle

variable (k : RestCall) (c : RestClient) (n : Network)

/-- What is noted when the request is made. -/
def remark : RestCall → String
  | fetch => "rest fetch"
  | mint => "rest create"

theorem run_eq_ask : k.run c n = c.ask k.payload k.method k.endpoint k.remark n := by
  cases k <;> rfl

theorem run_of_reply {status : Nat} {body : Net.Body} (h : k.reply? c n = some (status, body)) :
    (k.run c n).1 =
      if Net.isError status then .error (.transport ("HTTP " ++ Net.statusText status))
      else RestClient.readBody k.payload body := by
  rw [reply?] at h
  rw [run_eq_ask, RestClient.ask]
  cases hu : c.endpoint k.endpoint with
  | error f => simp [hu] at h
  | ok u =>
    rw [hu] at h
    rw [← settle_of_reply k.payload h]
    exact congrArg (RestClient.settle k.payload) (Net.request_note n _ _ _ _)

theorem run_of_no_reply (h : k.reply? c n = none) :
    ∃ text, (k.run c n).1 = .error (.transport text) := by
  rw [reply?] at h
  rw [run_eq_ask, RestClient.ask]
  cases hu : c.endpoint k.endpoint with
  | error f =>
    rw [RestClient.endpoint] at hu
    split at hu
    · cases hu
    · exact ⟨_, congrArg Except.error (Except.error.inj hu).symm⟩
  | ok u =>
    rw [hu] at h
    obtain ⟨text, htext⟩ := settle_of_no_reply k.payload h
    refine ⟨text, htext ▸ ?_⟩
    exact congrArg (RestClient.settle k.payload) (Net.request_note n _ _ _ _)

end RestCall

/-- How a plain request ends: without a reply, or with one whose status is that of an error, the
transport has failed; any other reply is the result when its body comes to an end and decodes, and
malformed when it does not, be it that the connection is lost or the time is up on the way. -/
theorem rest_outcome (k : RestCall) (c : RestClient) (n : Network) :
    ((∃ text, (k.run c n).1 = .error (.transport text)) ↔
        k.reply? c n = none ∨
          ∃ status body, k.reply? c n = some (status, body) ∧ 400 ≤ status ∧ status < 600) ∧
      (∀ a, (k.run c n).1 = .ok a ↔
        ∃ status body, k.reply? c n = some (status, body) ∧ ¬ (400 ≤ status ∧ status < 600) ∧
          k.Decodes body a) ∧
      ((∃ text, (k.run c n).1 = .error (.malformed text)) ↔
        ∃ status body, k.reply? c n = some (status, body) ∧ ¬ (400 ≤ status ∧ status < 600) ∧
          ∀ a, ¬ k.Decodes body a) ∧
      ∀ code text, (k.run c n).1 ≠ .error (.refused code text) := by
  cases hreply : k.reply? c n with
  | none =>
    obtain ⟨text, h⟩ := k.run_of_no_reply c n hreply
    simp [h]
  | some reply =>
    obtain ⟨status, body⟩ := reply
    have hreplied : ∀ p : Nat → Net.Body → Prop,
        (∃ s b, some (status, body) = some (s, b) ∧ p s b) ↔ p status body := by
      simp [and_assoc]
    have hok : ∀ a, k.Decodes body a ↔ RestClient.readBody k.payload body = .ok a :=
      fun a => (RestCall.readBody_eq_ok_iff k.payload).symm
    rw [k.run_of_reply c n hreply]
    simp only [hreplied, hok, ← Net.isError_iff]
    cases Net.isError status with
    | true => simp
    | false =>
      cases hread : RestClient.readBody k.payload body with
      | ok a => simp
      | error f =>
        obtain ⟨text, rfl⟩ := RestCall.malformed_of_readBody k.payload hread
        simp

/-- A redirection that names no place is decoded like a success. -/
theorem rest_ok_of_found :
    RestCall.fetch.reply? ⟨nearbyUrl⟩ (replying 302 "[]") = some (302, .whole "[]") ∧
      Net.isSuccess 302 = false ∧
      (RestCall.fetch.run ⟨nearbyUrl⟩ (replying 302 "[]")).1 =
        .ok { blocks := [], reportedTotalBlocks := none, reportedTotalTokens := none } := by
  refine ⟨?_, rfl, ?_⟩ <;> decide +kernel

/-- A connection that is lost behind the status, or time that is up there, is no failure of the
transport. -/
theorem rest_malformed_of_unread_body :
    ((RestCall.fetch.run ⟨nearbyUrl⟩ (answering 200 .broken)).1 =
        .error (.malformed Net.unreadBody)) ∧
      (RestCall.fetch.run ⟨nearbyUrl⟩ (answering 200 .stalled)).1 =
        .error (.malformed Net.unreadBody) := by
  refine ⟨?_, ?_⟩ <;> decide +kernel

end Source

end FeedExplorer
