import FeedExplorer.Url.Basic

/-!
# Reading addresses

An address from a text, on its own or relative to another one.
-/

namespace FeedExplorer.Url

/-- Controls and spaces around a text do not count, tabs and line breaks nowhere. -/
def clean (cs : List Char) : List Char :=
  let cs := cs.dropWhile (· ≤ ' ')
  let cs := (cs.reverse.dropWhile (· ≤ ' ')).reverse
  cs.filter fun c => c ≠ '\t' && c ≠ '\n' && c ≠ '\r'

/-- The letters of a scheme up to its colon. -/
def schemeBody : List Char → Option (List Char × List Char)
  | [] => none
  | ':' :: rest => some ([], rest)
  | c :: rest =>
    if c.isAlphanum || c == '+' || c == '-' || c == '.' then
      (schemeBody rest).map fun (s, rest) => (c.toLower :: s, rest)
    else none

def scheme? : List Char → Option (String × List Char)
  | [] => none
  | c :: rest =>
    if c.isAlpha then (schemeBody (c :: rest)).map fun (s, rest) => (String.ofList s, rest)
    else none

/-- The ends of an authority. -/
def endsAuthority (special : Bool) (c : Char) : Bool :=
  c == '/' || c == '?' || c == '#' || (special && c == '\\')

/-- Parts a text at the last place where a mark stands. -/
def splitLast (mark : Char) (cs : List Char) : Option (List Char × List Char) :=
  let back := cs.reverse.takeWhile (· ≠ mark)
  if back.length < cs.length then
    some (cs.take (cs.length - back.length - 1), back.reverse)
  else none

/-- Parts a text at the first place where a mark stands. -/
def splitFirst (mark : Char) (cs : List Char) : Option (List Char × List Char) :=
  match cs.span (· ≠ mark) with
  | (front, _ :: back) => some (front, back)
  | _ => none

/-- User and password, in their written form. -/
def userinfo (cs : List Char) : String × Option String :=
  let written := fun cs => String.ofList (escape userinfoSet cs)
  match splitFirst ':' cs with
  | none => (written cs, none)
  | some (user, []) => (written user, none)
  | some (user, password) => (written user, some (written password))

/-- A host up to a colon outside of brackets, and what follows it. -/
def spanHost : Bool → List Char → List Char × List Char
  | _, [] => ([], [])
  | inside, c :: cs =>
    if c = ':' ∧ ¬ inside then ([], c :: cs)
    else
      let inside := if c = '[' then true else if c = ']' then false else inside
      let (host, rest) := spanHost inside cs
      (c :: host, rest)

/-- A port number behind its colon; none when there are no digits. -/
def parsePort (cs : List Char) : Except Fault (Option Nat) :=
  if cs.isEmpty then .ok none
  else if cs.all Char.isDigit then
    match digitsIn 10 0 cs with
    | some n => if n < 65536 then .ok (some n) else .error .badPort
    | none => .error .badPort
  else .error .badPort

/-- What is in front of the path of an address. -/
structure Authority where
  username : String
  password : Option String
  host : Host
  port : Option Nat

/-- Reads what stands between the slashes and the path. -/
def parseAuthority (scheme : String) (cs : List Char) : Except Fault Authority := do
  let special := isSpecialScheme scheme
  let (user, hostPort) := match splitLast '@' cs with
    | none => (("", none), cs)
    | some (info, rest) => (userinfo info, rest)
  let (hostText, rest) := spanHost false hostPort
  if hostText.isEmpty ∧ (special ∨ ¬ rest.isEmpty) then throw .emptyHost
  let host ← if special then parseHost hostText else parseOpaqueHost hostText
  let port ← match rest with
    | ':' :: digits => parsePort digits
    | _ => pure none
  if hostText.isEmpty ∧ ¬ user.1.isEmpty then throw .emptyHost
  let port := if port.isSome ∧ port = usualPort? scheme then none else port
  return { username := user.1, password := user.2, host, port }

/-- A segment that stays where it is. -/
def isSingleDot (cs : List Char) : Bool :=
  let s := String.ofList (cs.map Char.toLower)
  s == "." || s == "%2e"

/-- A segment that leads up. -/
def isDoubleDot (cs : List Char) : Bool :=
  let s := String.ofList (cs.map Char.toLower)
  s == ".." || s == "%2e." || s == ".%2e" || s == "%2e%2e"

/-- Adds the segments of a path to those gone before. -/
def addSegments : List String → List (List Char) → List String
  | done, [] => done
  | done, seg :: rest =>
    if isDoubleDot seg then
      addSegments (if rest.isEmpty then done.dropLast ++ [""] else done.dropLast) rest
    else if isSingleDot seg then
      addSegments (if rest.isEmpty then done ++ [""] else done) rest
    else addSegments (done ++ [String.ofList (escape pathSet seg)]) rest

/-- Path, query and fragment of the end of an address. -/
structure Tail where
  path : List Char
  query : Option (List Char)
  fragment : Option (List Char)

def splitTail (cs : List Char) : Tail :=
  let (front, fragment) := match splitFirst '#' cs with
    | none => (cs, none)
    | some (front, back) => (front, some back)
  match splitFirst '?' front with
  | none => { path := front, query := none, fragment }
  | some (path, query) => { path, query := some query, fragment }

def queryText (special : Bool) (cs : List Char) : String :=
  String.ofList (escape (if special then specialQuerySet else querySet) cs)

def fragmentText (cs : List Char) : String :=
  String.ofList (escape fragmentSet cs)

/-- In a well-known scheme a backslash is a slash. -/
def slashes (special : Bool) (cs : List Char) : List Char :=
  if special then cs.map fun c => if c = '\\' then '/' else c else cs

/-- The segments of a path behind its first slash. -/
def pathSegments (special : Bool) (done : List String) (cs : List Char) : List String :=
  addSegments done (splitAt '/' (slashes special cs))

/-- The segments of a path that may lack its first slash. -/
def rootedSegments (special : Bool) (cs : List Char) : List String :=
  match slashes special cs with
  | '/' :: rest => pathSegments special [] rest
  | [] => if special then [""] else []
  | cs => pathSegments special [] cs

/-- An address from what follows the two slashes. -/
def afterSlashes (scheme : String) (cs : List Char) : Except Fault Url := do
  let special := isSpecialScheme scheme
  let (front, rest) := cs.span fun c => !endsAuthority special c
  let a ← parseAuthority scheme front
  let tail := splitTail rest
  return { scheme, username := a.username, password := a.password, host := some a.host
           port := a.port, path := .segments (rootedSegments special tail.path)
           query := tail.query.map (queryText special), fragment := tail.fragment.map fragmentText }

/-- The address of a file. -/
def parseFile (cs : List Char) : Except Fault Url := do
  let tail := splitTail cs
  let path := slashes true tail.path
  let (host, path) ← match path with
    | '/' :: '/' :: rest => do
      let (name, rest) := rest.span (· ≠ '/')
      if name.isEmpty then pure (none, rest)
      else
        let host ← parseHost name
        pure (if host = .name "localhost" then none else some host, rest)
    | path => pure (none, path)
  return { scheme := "file", username := "", password := none, host, port := none
           path := .segments (rootedSegments true path)
           query := tail.query.map (queryText true), fragment := tail.fragment.map fragmentText }

/-- An address of a scheme that is not well known. -/
def parseOther (scheme : String) (cs : List Char) : Except Fault Url :=
  match cs with
  | '/' :: '/' :: rest => afterSlashes scheme rest
  | _ =>
    let tail := splitTail cs
    let path := match tail.path with
      | '/' :: rest => Path.segments (pathSegments false [] rest)
      | path => .opaque_ (String.ofList (escape controlSet path))
    .ok { scheme, username := "", password := none, host := none, port := none, path
          query := tail.query.map (queryText false), fragment := tail.fragment.map fragmentText }

/-- The segments of a path that can be a base. -/
def Path.parts : Path → List String
  | .segments parts => parts
  | .opaque_ _ => []

/-- An address given relative to another one. -/
def parseRelative (base : Url) (cs : List Char) : Except Fault Url :=
  let special := isSpecialScheme base.scheme || base.scheme == "file"
  let tail := splitTail cs
  let query := tail.query.map (queryText special)
  let fragment := tail.fragment.map fragmentText
  match slashes special cs with
  | '/' :: '/' :: rest =>
    if base.scheme = "file" then parseFile cs
    else
      let rest := if special then cs.drop (cs.length - (rest.dropWhile (· = '/')).length)
        else cs.drop 2
      afterSlashes base.scheme rest
  | _ =>
    match slashes special tail.path with
    | [] => .ok { base with query := if tail.query.isSome then query else base.query, fragment }
    | '/' :: rest =>
      .ok { base with path := .segments (pathSegments special [] rest), query, fragment }
    | path =>
      let done := base.path.parts.dropLast
      .ok { base with path := .segments (pathSegments special done path), query, fragment }

/-- An address, relative to a base if there is one. -/
def parseWith (base : Option Url) (text : String) : Except Fault Url :=
  let cs := clean text.toList
  match scheme? cs with
  | some (scheme, rest) =>
    if scheme = "file" then parseFile rest
    else if isSpecialScheme scheme then
      let count := (rest.takeWhile fun c => c == '/' || c == '\\').length
      match base with
      | some base =>
        if count < 2 ∧ base.scheme = scheme then parseRelative base rest
        else afterSlashes scheme (rest.drop count)
      | none => afterSlashes scheme (rest.drop count)
    else parseOther scheme rest
  | none =>
    match base with
    | none => .error .noBase
    | some base =>
      match cs with
      | '#' :: rest => .ok { base with fragment := some (fragmentText rest) }
      | _ => if base.canBeBase then parseRelative base cs else .error .opaqueBase

def parse (text : String) : Except Fault Url :=
  parseWith none text

/-- Another address seen from this one. -/
def join (base : Url) (text : String) : Except Fault Url :=
  parseWith (some base) text

end FeedExplorer.Url
