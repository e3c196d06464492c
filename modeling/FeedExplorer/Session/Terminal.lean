import FeedExplorer.Session.Loop
import FeedExplorer.Source.Supply

/-!
# Sessions at a terminal

An event loop whose calls go out over a network at once. Their answers wait until the terminal
settles; those that the network never gives wait for the time limit.
-/

namespace FeedExplorer.Session

open Net (Network)
open Source (Client)

structure Terminal where
  loop : Loop
  client : Option Client
  network : Network
  /-- Answers on their way, the oldest first. -/
  due : List Loop.Event
  /-- Failures of calls that nobody answers. -/
  overdue : List Loop.Event

namespace Terminal

def step (t : Terminal) (e : Loop.Event) : Terminal :=
  { t with loop := t.loop.step e }

/-- Puts the answer of a call of the client behind the others, given the network before it. -/
def expect (t : Terminal) (c : Client) (before : Network) (e : Loop.Event) : Terminal :=
  if Source.elapsed c before t.network < Source.timeLimit then { t with due := t.due ++ [e] }
  else { t with overdue := t.overdue ++ [e] }

def callFetch (t : Terminal) (id : Nat) : Terminal :=
  match t.client with
  | none => t
  | some c =>
    let (result, next, network) := c.fetch t.network
    { t.step (.begin id) with client := some next, network }.expect c t.network (.answer id result)

def callMint (t : Terminal) : Terminal :=
  match t.client with
  | none => t
  | some c =>
    let (result, next, network) := c.mint t.network
    { t with client := some next, network }.expect c t.network (.minted result)

/-- The refreshes that have yet to begin. -/
def waiting (l : Loop) : List Nat :=
  match l.session.feed with
  | none => []
  | some m => (m.refreshes.filter (·.seq.isNone)).map (·.id)

def callWaiting (t : Terminal) : Terminal :=
  (waiting t.loop).foldl callFetch t

/-- The first tick of the timer comes when the feed is started. -/
def connect (t : Terminal) : Terminal :=
  ({ t with client := clientFor? t.loop.session.config }.step .tick).callWaiting

def start (s : Session) (disk : Disk) (home : Disk.Place) (network : Network) : Terminal :=
  let t : Terminal :=
    { loop := .start s disk home, client := none, network, due := [], overdue := [] }
  if s.needsSetup then t else t.connect

def press (t : Terminal) (k : Key) : Terminal :=
  let after := t.step (.press k)
  if t.loop.session.needsSetup && !after.loop.session.needsSetup then after.connect
  else if t.loop.minting < after.loop.minting then after.callMint
  else after.callWaiting

/-- All answers on their way arrive and are handled. -/
def settle (t : Terminal) : Terminal :=
  { t with loop := (t.loop.run t.due).step .handle, due := [] }

/-- The time limit of all calls passes. -/
def timeOut (t : Terminal) : Terminal :=
  { t with loop := (t.loop.run t.overdue).step .handle, overdue := [] }

end Terminal

end FeedExplorer.Session
