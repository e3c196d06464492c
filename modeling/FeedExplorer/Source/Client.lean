import FeedExplorer.Chain.Failure
import FeedExplorer.Chain.Protocol
import FeedExplorer.Chain.Wire
import FeedExplorer.Files.Content
import FeedExplorer.Files.Record
import FeedExplorer.Json.Decode
import FeedExplorer.Net.Exchange
import FeedExplorer.Source.Envelope
import FeedExplorer.Trouble

/-!
# Clients

Calls to a block source and to the file store, by remote procedures or by plain requests, and how
the ends of an exchange become results and failures.
-/

namespace FeedExplorer.Source

open Chain (Block Failure Protocol Snapshot)
open Json (Mismatch)
open Net (Ending Network)

/-- A client of remote procedures. Calls are numbered from zero. -/
structure RpcClient where
  url : Url
  nextId : Nat
  deriving Repr

/-- A client of plain requests, with the address that its endpoints lie below. -/
structure RestClient where
  base : Url
  deriving Repr

inductive Client where
  | rpc (client : RpcClient)
  | rest (client : RestClient)
  deriving Repr

/-- Where events of clients are noted. -/
def logPart : String := "feedex::rpc"

namespace RpcClient

def ofUrl (text : String) : Except Trouble RpcClient :=
  match Url.parse text with
  | .ok url => .ok { url, nextId := 0 }
  | .error fault => .error (.caused "Invalid RPC URL" fault.message)

/-- The body of a call. -/
def callBody (id : Nat) (method : String) (params : Json) : Json :=
  .obj [("method", .str method), ("params", params), ("id", .int id), ("jsonrpc", .str "2.0")]

/-- The failure that an answer with an unwelcome status stands for. -/
def statusFailure (status : Nat) (body : String) : Failure :=
  .transport (s!"HTTP error {status} with " ++
    if body.isEmpty then "empty body" else "body: " ++ body)

/-- The result of a call inside its envelope, as a value with sorted members. -/
def openEnvelope (body : String) : Except Failure Json :=
  match Envelope.parse body with
  | .error fault => .error (.malformed (fault.message body.toList))
  | .ok (.batch _) => .error (.transport "received batch response from single request")
  | .ok (.single (.error code text)) => .error (.refused code text)
  | .ok (.single (.result raw)) =>
    match Json.parseOpened (String.ofList raw) with
    | .error fault => .error (.malformed (fault.message raw))
    | .ok v => .ok v.canonical

/-- The decoded result of a call; nothing is not a result. -/
def decodeResult {α : Type} (decode : Json → Except Mismatch α) (method : String) (v : Json) :
    Except Failure α :=
  if v.isNull then .error (.malformed (method ++ " returned a null result"))
  else
    match decode v with
    | .ok a => .ok a
    | .error m => .error (.malformed m.message)

/-- What the end of an exchange means for a call. -/
def settle {α : Type} (decode : Json → Except Mismatch α) (method : String) :
    Ending → Except Failure α
  | .failed text => .error (.transport text)
  | .timedOut _ => .error (.transport (method ++ " timed out after 10s"))
  | .response _ .broken => .error (.transport Net.unreadBody)
  | .response _ .stalled => .error (.transport (method ++ " timed out after 10s"))
  | .response status (.whole body) =>
    if Net.isSuccess status then do decodeResult decode method (← openEnvelope body)
    else .error (statusFailure status body)

/-- Makes a call and decodes its result. -/
def call {α : Type} (decode : Json → Except Mismatch α) (method : String) (params : Json)
    (c : RpcClient) (n : Network) : Except Failure α × RpcClient × Network :=
  let n := n.note { level := .debug, part := logPart, message := "rpc call"
                    fields := [("method", Text.quoted method)] }
  let (ending, n) := Net.request .post (some (callBody c.nextId method params)) c.url n
  (settle decode method ending, { c with nextId := c.nextId + 1 }, n)

def fetch (c : RpcClient) (n : Network) : Except Failure Snapshot × RpcClient × Network :=
  c.call Snapshot.ofJson "get_latest_block" (.arr []) n

def mint (c : RpcClient) (n : Network) : Except Failure Block × RpcClient × Network :=
  c.call Chain.mintedBlock "create_block" (.arr []) n

/-- What is sent along with a file. -/
def uploadParams (filename : String) (bytes : List UInt8) : Json :=
  .obj [("filename", .str filename), ("data", .str (Files.Base64.encode bytes))]

def upload (filename : String) (bytes : List UInt8) (c : RpcClient) (n : Network) :
    Except Failure Files.StoredFile × RpcClient × Network :=
  c.call Files.StoredFile.ofJson "upload_file" (uploadParams filename bytes) n

/-- A payload with its contents read. -/
def openPayload (p : Files.FilePayload) : Except Failure Files.FetchedFile :=
  match Files.decodeContent p.data with
  | .ok bytes => .ok { filename := p.filename, contentType := p.contentType, bytes }
  | .error fault => .error (.malformed ("file data is not valid base64: " ++ fault.message))

def getFile (id : String) (c : RpcClient) (n : Network) :
    Except Failure Files.FetchedFile × RpcClient × Network :=
  let (result, c, n) := c.call Files.FilePayload.ofJson "get_file" (.str id) n
  (result >>= openPayload, c, n)

end RpcClient

namespace RestClient

/-- Endpoints lie below the path, so it is made to end in a slash. -/
def ofUrl (text : String) : Except Trouble RestClient :=
  match Url.parse text with
  | .ok url => .ok { base := url.closed }
  | .error fault => .error (.caused "Invalid REST URL" fault.message)

/-- The address of an endpoint. -/
def endpoint (c : RestClient) (name : String) : Except Failure Url :=
  match c.base.join name with
  | .ok url => .ok url
  | .error fault => .error (.transport ("invalid endpoint " ++ name ++ ": " ++ fault.message))

/-- What the body of an answer means for a request. A body that does not come to its end counts as
one that cannot be decoded, and not as a failure of the transport. -/
def readBody {α : Type} (decode : Json → Except Mismatch α) : Net.Body → Except Failure α
  | .broken => .error (.malformed Net.unreadBody)
  | .stalled => .error (.malformed Net.unreadBody)
  | .whole text =>
    match Json.decodeStraight decode text with
    | .ok a => .ok a
    | .error e => .error (.malformed (e.message text))

/-- What the end of an exchange means for a request. -/
def settle {α : Type} (decode : Json → Except Mismatch α) : Ending → Except Failure α
  | .failed text => .error (.transport text)
  | .timedOut text => .error (.transport text)
  | .response status body =>
    if Net.isError status then .error (.transport ("HTTP " ++ Net.statusText status))
    else readBody decode body

/-- Makes a request to an endpoint and decodes the answer. -/
def ask {α : Type} (decode : Json → Except Mismatch α) (method : Net.Method)
    (name message : String) (c : RestClient) (n : Network) : Except Failure α × Network :=
  match c.endpoint name with
  | .error e => (.error e, n)
  | .ok url =>
    let n := n.note { level := .debug, part := logPart, message, fields := [("url", url.text)] }
    let (ending, n) := Net.request method none url n
    (settle decode ending, n)

def fetch (c : RestClient) (n : Network) : Except Failure Snapshot × Network :=
  c.ask Snapshot.ofJson .get "get_all_blocks" "rest fetch" n

def mint (c : RestClient) (n : Network) : Except Failure Block × Network :=
  c.ask Chain.mintedBlock .post "create_block" "rest create" n

end RestClient

namespace Client

/-- The client for an address; nothing is sent. -/
def connect (url : String) : Protocol → Except Trouble Client
  | .rpc => (RpcClient.ofUrl url).map .rpc
  | .rest => (RestClient.ofUrl url).map .rest

/-- The client reads the body of an answer with this status. -/
def reads : Client → Nat → Bool
  | .rpc _, _ => true
  | .rest _, status => !Net.isError status

def fetch (c : Client) (n : Network) : Except Failure Snapshot × Client × Network :=
  match c with
  | .rpc c => let (result, c, n) := c.fetch n; (result, .rpc c, n)
  | .rest c => let (result, n) := c.fetch n; (result, .rest c, n)

def mint (c : Client) (n : Network) : Except Failure Block × Client × Network :=
  match c with
  | .rpc c => let (result, c, n) := c.mint n; (result, .rpc c, n)
  | .rest c => let (result, n) := c.mint n; (result, .rest c, n)

end Client

end FeedExplorer.Source
