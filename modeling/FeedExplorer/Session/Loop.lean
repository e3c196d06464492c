import FeedExplorer.Session.Basic
import FeedExplorer.Session.Key

/-!
# Event loop

A session moved by events. A key may ask for a call; that the call begins, that its answer arrives
and that the answer is told to the session are events of their own, so any order in which keys are
pressed and calls end is a list of events.
-/

namespace FeedExplorer.Session

open Chain (Block Failure Snapshot)

/-- What the session is told about a call that a key has asked for. -/
inductive Message where
  | minted (block : Option Block)
  | refreshed
  deriving DecidableEq, Repr

structure Loop where
  session : Session
  disk : Disk
  home : Disk.Place
  /-- The refreshes asked for by key that have not been answered, by their numbers. -/
  refreshing : List Nat
  /-- How many mints have not been answered. -/
  minting : Nat
  /-- What the session has not been told yet, the oldest first. -/
  inbox : List Message
  deriving Repr

inductive Loop.Event where
  | press (k : Key)
  /-- The timer of the feed is due. -/
  | tick
  /-- The refresh `id` asks the source. -/
  | begin (id : Nat)
  | answer (id : Nat) (result : Except Failure Snapshot)
  | minted (result : Except Failure Block)
  /-- The session is told what has arrived. -/
  | handle

/-- A message changes the status line. -/
def receive (s : Session) : Message → Session
  | .minted b => s.blockMinted b
  | .refreshed => s.clearStatus

/-- The search line changed by a key; the query follows it. -/
def typeSearch (s : Session) (k : Key) : Session :=
  match k.edit?.bind s.search.edit with
  | some search => { s with search }.syncSearch
  | none => s

/-- The address line changed by a key. -/
def typeAddress (s : Session) (k : Key) : Session :=
  match k.edit?.bind s.address.edit with
  | some address => { s with address }
  | none => s

/-- A key on the page of a block. -/
def pressOnBlock (s : Session) (k : Key) : Session :=
  if k = .up ∨ k.letter? = some 'k' then s.selectPrevious
  else if k = .down ∨ k.letter? = some 'j' then s.selectNext
  else if k.isBackspace ∨ k.letter? = some 'b' then s.goBack
  else s

def minting : String := "Creating block..."

def refreshing : String := "Refreshing..."

namespace Loop

/-- A loop before the first event. The timer of the feed is running. -/
def start (s : Session) (disk : Disk) (home : Disk.Place) : Loop :=
  { session := s.tell .start, disk, home, refreshing := [], minting := 0, inbox := [] }

def withSession (l : Loop) (s : Session) : Loop :=
  { l with session := s }

/-- A key while there is no feed yet. -/
def pressOnSetup (l : Loop) (k : Key) : Loop :=
  match k with
  | .enter =>
    match l.session.submit l.disk l.home with
    | .ok (s, disk) => { l with session := s.tell .start, disk }
    | .error text => l.withSession (l.session.say text)
  | .escape => l
  | k => l.withSession (l.session.typeAddress k)

/-- A key on the page of the feed `m`. -/
def pressOnFeed (l : Loop) (m : Feed.Machine) (k : Key) : Loop :=
  match k with
  | .control 'n' =>
    { l with session := l.session.say Session.minting, minting := l.minting + 1 }
  | .control 'r' =>
    { l with
      session := (l.session.say Session.refreshing).tell .request
      refreshing := l.refreshing ++ [m.spawned] }
  | .up => l.withSession l.session.selectPrevious
  | .down => l.withSession l.session.selectNext
  | .enter => l.withSession l.session.openSelected.1
  | .escape => l
  | k => l.withSession (l.session.typeSearch k)

def press (l : Loop) (k : Key) : Loop :=
  let l := if k.quits then l.withSession { l.session with quitting := true } else l
  match l.session.feed with
  | none => l.pressOnSetup k
  | some m =>
    match l.session.page with
    | .feed => l.pressOnFeed m k
    | .block _ _ => l.withSession (l.session.pressOnBlock k)

/-- The answer to a refresh. One that a key has asked for makes a message. -/
def answer (l : Loop) (id : Nat) (result : Except Failure Snapshot) : Loop :=
  let l := l.withSession (l.session.tell (.answer id result))
  if id ∈ l.refreshing then
    { l with refreshing := l.refreshing.erase id, inbox := l.inbox ++ [.refreshed] }
  else l

/-- The answer to one of the mints under way. -/
def minted (l : Loop) (result : Except Failure Block) : Loop :=
  if l.minting = 0 then l
  else
    { l with
      session := l.session.tell (.minted result)
      minting := l.minting - 1
      inbox := l.inbox ++ [.minted result.toOption] }

def handle (l : Loop) : Loop :=
  { l with session := l.inbox.foldl receive l.session, inbox := [] }

/-- Once someone has quit, keys and messages are left alone. -/
def step (l : Loop) : Event → Loop
  | .press k => if l.session.quitting then l else l.press k
  | .tick => l.withSession (l.session.tell .tick)
  | .begin id => l.withSession (l.session.tell (.begin id))
  | .answer id result => l.answer id result
  | .minted result => l.minted result
  | .handle => if l.session.quitting then l else l.handle

/-- The loop after some events in turn. -/
def run (l : Loop) (events : List Event) : Loop :=
  events.foldl step l

@[simp] theorem run_nil (l : Loop) : l.run [] = l := rfl

@[simp] theorem run_cons (l : Loop) (e : Event) (es : List Event) :
    l.run (e :: es) = (l.step e).run es := rfl

end Loop

end FeedExplorer.Session
