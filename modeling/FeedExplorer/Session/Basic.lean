import FeedExplorer.Config.Store
import FeedExplorer.Feed.Machine
import FeedExplorer.Session.LineInput
import FeedExplorer.Source.Client
import FeedExplorer.Text.Blank

/-!
# Sessions

What the program shows and remembers while someone uses it: the page, the two lines of text, the
selection, the status line, and the feed as soon as there is an address for it.
-/

namespace FeedExplorer

open Chain (Block)
open Session (LineInput)

/-- The page that is open. -/
inductive Session.Page where
  | feed
  /-- A block as it was when it was opened, with the transaction selected in it. -/
  | block (block : Block) (selected : Nat)
  deriving DecidableEq, Repr

structure Session where
  config : Config
  page : Session.Page
  search : LineInput
  address : LineInput
  /-- The block selected among those that the search leaves; there may be fewer by now. -/
  selected : Nat
  quitting : Bool
  url : Option String
  feed : Option Feed.Machine
  status : Option String
  deriving Repr

namespace Session

/-- A session with a feed, or without one. -/
def build (config : Config) (feed : Option Feed.Machine) : Session :=
  { config, page := .feed, search := .empty, address := .empty, selected := 0, quitting := false
    url := config.rpcUrl, feed, status := none }

/-- The client for the address of a configuration, if it is one. -/
def clientFor? (config : Config) : Option Source.Client := do
  (Source.Client.connect (← config.rpcUrl) config.protocol).toOption

/-- There is a feed if the configuration has an address that a client can be made for. -/
def start (config : Config) : Session :=
  build config ((clientFor? config).map fun _ => .initial)

def needsSetup (s : Session) : Bool :=
  s.feed.isNone

def onFeed (s : Session) : Bool :=
  s.page == .feed

def feedState (s : Session) : Feed.State :=
  match s.feed with
  | some m => m.state
  | none => .initial

/-- The blocks that the search leaves. -/
def visible (s : Session) : List Block :=
  s.feedState.filtered

/-- Passes an event to the feed, if there is one. -/
def tell (s : Session) (e : Feed.Event) : Session :=
  { s with feed := s.feed.map fun m => (m.step e).1 }

/-- Makes the search line the query of the feed and selects the first block. -/
def syncSearch (s : Session) : Session :=
  { s.tell (.search ⟨s.search.text⟩) with selected := 0 }

def say (s : Session) (text : String) : Session :=
  { s with status := some text }

def clearStatus (s : Session) : Session :=
  { s with status := none }

/-- A mint has ended. -/
def blockMinted (s : Session) (b : Option Block) : Session :=
  { s with status := b.map fun b => "Created block #" ++ toString b.index.toNat }

/-- A failure to keep the configuration is told, but the address is used all the same. -/
def noteSave {α : Type} (s : Session) : Except Trouble α → Session
  | .ok _ => s.clearStatus
  | .error t => s.say ("Connected, but config not saved: " ++ t.line)

def selectPrevious (s : Session) : Session :=
  match s.page with
  | .feed => { s with selected := s.selected - 1 }
  | .block b i => { s with page := .block b (i - 1) }

def selectNext (s : Session) : Session :=
  match s.page with
  | .feed => if s.selected + 1 < s.visible.length then { s with selected := s.selected + 1 } else s
  | .block b i => if i + 1 < b.transactions.length then { s with page := .block b (i + 1) } else s

/-- The block that is highlighted: the selected one, or the last if there are fewer. -/
def highlighted (s : Session) : Nat :=
  min s.selected (s.visible.length - 1)

/-- Opens the highlighted block, if there is any. -/
def openSelected (s : Session) : Session × Bool :=
  match s.visible[s.highlighted]? with
  | some b => ({ s with page := .block b 0 }, true)
  | none => (s, false)

def goBack (s : Session) : Session :=
  { s with page := .feed }

/-- Takes the address line as the address of a new feed and keeps it in the configuration. -/
def submit (s : Session) (disk : Disk) (home : Disk.Place) : Except String (Session × Disk) :=
  let url := Text.trim s.address.text
  if url.isEmpty then .error "RPC URL cannot be empty"
  else
    match Source.Client.connect url s.config.protocol with
    | .error t => .error ("Invalid RPC URL: " ++ t.text)
    | .ok _ =>
      let config := s.config.withRpcUrl url
      let (kept, disk) := config.keep disk home
      let s := { s with
        config, feed := some .initial, url := some url, address := .empty }
      .ok (s.noteSave kept, disk)

end Session

end FeedExplorer
