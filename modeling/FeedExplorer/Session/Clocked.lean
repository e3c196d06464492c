import FeedExplorer.Session.Loop
import FeedExplorer.Source.Supply

/-!
# Clocked sessions

A session with the source and the clock of its feed.
-/

namespace FeedExplorer.Session

open Feed (Timeline)
open Source (Supply)

/-- The timeline holds the calls of the feed of the session, which has the feed itself. -/
structure Clocked where
  session : Session
  timeline : Timeline Supply
  disk : Disk
  home : Disk.Place

namespace Clocked

/-- The timeline of a new feed. -/
def newTimeline (config : Config) (supply : Supply) : Timeline Supply :=
  .initial supply config.effectiveInterval

/-- A session over a source that is there already. -/
def onSource (config : Config) (supply : Supply) (disk : Disk) (home : Disk.Place) : Clocked :=
  { session := .build config (some .initial), timeline := newTimeline config supply, disk, home }

/-- A source that nobody asks. -/
def noSupply : Supply :=
  .script { fetches := [], mints := [], fallback := none }

/-- A client for the address of a configuration, on a network that leads nowhere. -/
def supplyFor (config : Config) : Supply :=
  match clientFor? config with
  | some c => .client c .empty
  | none => noSupply

def start (config : Config) (disk : Disk) (home : Disk.Place) : Clocked :=
  { session := .start config, timeline := newTimeline config (supplyFor config), disk, home }

def mapSession (c : Clocked) (f : Session → Session) : Clocked :=
  { c with session := f c.session }

/-- Runs the timeline with the feed of the session, if there is one. -/
def withFeed {α : Type} (c : Clocked) (f : Timeline Supply → Timeline Supply × α) :
    Clocked × Option α :=
  match c.session.feed with
  | none => (c, none)
  | some machine =>
    let (timeline, a) := f { c.timeline with machine }
    ({ c with session := { c.session with feed := some timeline.machine }, timeline }, some a)

/-- Refreshes the feed and waits for the outcome. -/
def refresh (c : Clocked) : Clocked × Option Feed.Reply :=
  c.withFeed fun t => t.awaitRefresh Supply.source

/-- Mints a block, waits for it and tells the session. -/
def mint (c : Clocked) : Clocked × Option Feed.Reply :=
  if c.session.needsSetup then (c, none)
  else
    let (c, reply) := (c.mapSession (·.say minting)).withFeed fun t => t.awaitMint Supply.source
    match reply with
    | some (.minted b) => (c.mapSession (·.blockMinted b), reply)
    | _ => (c, reply)

def startFeed (c : Clocked) : Clocked :=
  (c.withFeed fun t => (t.start Supply.source, ())).1

def advance (c : Clocked) (ms : Nat) : Clocked :=
  (c.withFeed fun t => (t.advance Supply.source ms, ())).1

/-- Takes the address line. The calls of the old feed come to nothing. -/
def submit (c : Clocked) : Except String Clocked :=
  match c.session.submit c.disk c.home with
  | .error text => .error text
  | .ok (session, disk) =>
    .ok { c with
          session, disk, timeline := newTimeline session.config (supplyFor session.config) }

end Clocked

end FeedExplorer.Session
