import FeedExplorer.Json.Value
import FeedExplorer.Log.Event
import FeedExplorer.Net.Status
import FeedExplorer.Url.Parser

/-!
# Exchanges

A network with one server, which gives its replies out in order, one to a request. Requests to
any other address are refused. A request is followed through at most ten redirections, whose
bodies nobody reads.
-/

namespace FeedExplorer.Net

/-- The body of an answer, as it comes behind the status. -/
inductive Body where
  | whole (text : String)
  /-- The connection is lost before the end of the body. -/
  | broken
  /-- The end of the body never comes. -/
  | stalled
  deriving DecidableEq, Repr

/-- What the server does with a request. -/
inductive Reply where
  | answer (status : Nat) (location : Option String) (body : Body)
  /-- The connection is closed without an answer. -/
  | close
  /-- No answer ever comes. -/
  | hang
  deriving Repr

/-- A client that reads the bodies of answers with some statuses waits for the reply until its
time is up. -/
def Reply.outlasts (reads : Nat → Bool) : Reply → Bool
  | .hang => true
  | .answer status _ .stalled => !hasNoBody status && reads status
  | _ => false

inductive Method where
  | get
  | post
  deriving DecidableEq, Repr

def Method.name : Method → String
  | .get => "GET"
  | .post => "POST"

/-- A request as it reaches the server. -/
structure Request where
  method : Method
  target : String
  body : Option Json

/-- The network, with what has been sent and noted so far, the latest last. -/
structure Network where
  server : Option (Url.Host × Nat)
  replies : List Reply
  requests : List Request
  log : List Log.Event

namespace Network

/-- Nobody is there. -/
def empty : Network :=
  { server := none, replies := [], requests := [], log := [] }

/-- Writes an event down. -/
def note (n : Network) (e : Log.Event) : Network :=
  { n with log := n.log ++ [e] }

/-- The address leads to the server. -/
def reaches (n : Network) (u : Url) : Bool :=
  match n.server, u.host with
  | some (host, port), some h =>
    u.scheme == "http" && h == host && (u.port.getD 80) == port
  | _, _ => false

/-- The next reply. A server without replies closes the connection. -/
def take (n : Network) (r : Request) : Reply × Network :=
  match n.replies with
  | [] => (.close, { n with requests := n.requests ++ [r] })
  | reply :: rest => (reply, { n with replies := rest, requests := n.requests ++ [r] })

end Network

/-- What comes of a request in the end. -/
inductive Ending where
  | response (status : Nat) (body : Body)
  | failed (text : String)
  | timedOut (text : String)
  deriving Repr

/-- The words for a body that does not come to its end. -/
def unreadBody : String := "error decoding response body"

/-- The words for a request that came to nothing, with its address. -/
def about (what : String) (u : Url) : String :=
  what ++ " for url (" ++ u.withoutCredentials.text ++ ")"

/-- Where and how a redirected request is made again. -/
def redirected? (method : Method) (body : Option Json) (u : Url) (status : Nat)
    (location : Option String) : Option (Method × Option Json × Url) := do
  if !isRedirect status then none
  let there ← (u.join (← location)).toOption
  if (status = 301 ∨ status = 302 ∨ status = 303) ∧ method = .post then
    some (.get, none, there)
  else some (method, body, there)

/-- Makes a request and follows it. The first argument bounds the number of redirections. -/
def send : Nat → Method → Option Json → Url → Network → Ending × Network
  | fuel, method, body, u, n =>
    if !u.isWeb then (.failed (about "builder error" u), n)
    else if !n.reaches u then (.failed (about "error sending request" u), n)
    else
      match n.take { method, target := u.target, body } with
      | (.close, n) => (.failed (about "error sending request" u), n)
      | (.hang, n) => (.timedOut (about "error sending request" u), n)
      | (.answer status location content, n) =>
        match redirected? method body u status location with
        | some (method, body, there) =>
          match fuel with
          | 0 => (.failed (about "error following redirect" u), n)
          | fuel + 1 => send fuel method body there n
        | none => (.response status (if hasNoBody status then .whole "" else content), n)

def maxRedirects : Nat := 10

/-- A request and what comes of it. -/
def request (method : Method) (body : Option Json) (u : Url) (n : Network) : Ending × Network :=
  send maxRedirects method body u n

end FeedExplorer.Net
