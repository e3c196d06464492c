import FeedExplorer.Url.Host

/-!
# Addresses

The parts of an address and its text. A path is a list of segments, or one opaque text when the
address cannot be a base.
-/

namespace FeedExplorer

namespace Url

inductive Path where
  | segments (parts : List String)
  | opaque_ (text : String)
  deriving DecidableEq, Repr

end Url

structure Url where
  scheme : String
  username : String
  password : Option String
  host : Option Url.Host
  /-- Left out when it is the usual one of the scheme. -/
  port : Option Nat
  path : Url.Path
  query : Option String
  fragment : Option String
  deriving DecidableEq, Repr

namespace Url

/-- The usual port of a well-known scheme. -/
def usualPort? (scheme : String) : Option Nat :=
  match scheme with
  | "http" => some 80
  | "https" => some 443
  | "ws" => some 80
  | "wss" => some 443
  | "ftp" => some 21
  | _ => none

/-- The well-known schemes, files apart. -/
def isSpecialScheme (scheme : String) : Bool :=
  (usualPort? scheme).isSome

/-- The text of a path; every segment stands behind a slash. -/
def Path.text : Path → String
  | .segments parts => String.join (parts.map ("/" ++ ·))
  | .opaque_ text => text

/-- Other addresses can be given relative to this one. -/
def canBeBase (u : Url) : Bool :=
  match u.path with
  | .segments _ => true
  | .opaque_ _ => false

/-- User and password in front of a host. -/
def credentials (u : Url) : String :=
  match u.password with
  | none => if u.username.isEmpty then "" else u.username ++ "@"
  | some p => u.username ++ ":" ++ p ++ "@"

def portText (u : Url) : String :=
  match u.port with
  | none => ""
  | some p => ":" ++ toString p

/-- Scheme, user, host and port. -/
def origin (u : Url) : String :=
  u.scheme ++ ":" ++
    match u.host with
    | none =>
      if u.scheme = "file" then "//"
      else if u.path.text.startsWith "//" then "/."
      else ""
    | some h => "//" ++ u.credentials ++ h.text ++ u.portText

/-- What is asked for at a host: the path and the query. -/
def target (u : Url) : String :=
  u.path.text ++ ((u.query.map ("?" ++ ·)).getD "")

def text (u : Url) : String :=
  u.origin ++ u.target ++ ((u.fragment.map ("#" ++ ·)).getD "")

/-- The address without user and password. -/
def withoutCredentials (u : Url) : Url :=
  { u with username := "", password := none }

/-- A client can speak to it. -/
def isWeb (u : Url) : Bool :=
  u.scheme == "http" || u.scheme == "https"

/-- The path with a slash at its end. -/
def Path.closed : Path → Path
  | .segments parts =>
    if parts.getLast? = some "" then .segments parts else .segments (parts ++ [""])
  | .opaque_ text => if text.endsWith "/" then .opaque_ text else .opaque_ (text ++ "/")

/-- The address with a slash at the end of its path. -/
def closed (u : Url) : Url :=
  { u with path := u.path.closed }

end Url

end FeedExplorer
