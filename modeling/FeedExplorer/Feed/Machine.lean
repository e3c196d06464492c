import FeedExplorer.Feed.State

/-!
# Feed machine

A feed with its timer and its refreshes under way, moved by events. That a refresh is spawned,
that it begins, which gives it its number, and that its answer arrives are three events, so any
schedule of concurrent refreshes is a list of events. A minted block and the end of the timer draw
their number and take effect in one event.
-/

namespace FeedExplorer.Feed

open Chain (Block Failure Query Snapshot)

/-- Who asked for a refresh. -/
inductive Origin where
  | timer
  | request
  deriving DecidableEq, Repr

/-- A refresh under way; it has no number before it begins. -/
structure Refresh where
  id : Nat
  origin : Origin
  seq : Option Nat
  deriving DecidableEq, Repr

structure Machine where
  state : State
  /-- How many numbers have been given out. -/
  issued : Nat
  /-- Whether the timer is running. -/
  running : Bool
  /-- How many refreshes have been spawned. -/
  spawned : Nat
  refreshes : List Refresh
  deriving Repr, Inhabited

inductive Event where
  | start
  | stop
  /-- The owner lets the feed go; whoever else holds it can still ask for refreshes. -/
  | drop
  | search (q : Query)
  /-- The timer is due. -/
  | tick
  /-- Someone wants a refresh. -/
  | request
  /-- The refresh `id` takes its number and asks the source. -/
  | begin (id : Nat)
  /-- The source answers the refresh `id`. -/
  | answer (id : Nat) (result : Except Failure Snapshot)
  /-- The source answers a request for a new block. -/
  | minted (result : Except Failure Block)

/-- What an event gives back to whoever caused it. -/
inductive Reply where
  | nothing
  | refreshed (outcome : Outcome)
  | minted (block : Option Block)
  deriving DecidableEq, Repr

namespace Machine

/-- A feed that has not been started. -/
def initial : Machine :=
  { state := .initial, issued := 0, running := false, spawned := 0, refreshes := [] }

/-- A refresh that has yet to begin. -/
def spawn (m : Machine) (origin : Origin) : Machine :=
  { m with
    spawned := m.spawned + 1
    refreshes := m.refreshes ++ [{ id := m.spawned, origin, seq := none }] }

/-- The refresh `id`, if it is under way. -/
def find? (m : Machine) (id : Nat) : Option Refresh :=
  m.refreshes.find? (·.id == id)

def begin (m : Machine) (id : Nat) : Machine :=
  match m.find? id with
  | some { seq := none, .. } =>
    { m with
      issued := m.issued + 1
      refreshes := m.refreshes.map fun r =>
        if r.id == id then { r with seq := some (m.issued + 1) } else r }
  | _ => m

def answer (m : Machine) (id : Nat) (result : Except Failure Snapshot) : Machine × Reply :=
  match m.find? id with
  | some { seq := some seq, .. } =>
    let (state, outcome) := m.state.absorb seq result
    ({ m with state, refreshes := m.refreshes.filter (·.id != id) }, .refreshed outcome)
  | _ => (m, .nothing)

/-- A success takes a number of its own, so that every refresh begun before it is discarded. -/
def minted (m : Machine) : Except Failure Block → Machine × Reply
  | .ok b =>
    ({ m with state := m.state.insertMinted (m.issued + 1) b, issued := m.issued + 1 },
      .minted (some b))
  | .error e => ({ m with state := m.state.noteMintFailure e }, .minted none)

/-- Stopping a running timer discards every refresh begun before. -/
def stop (m : Machine) : Machine :=
  if m.running then
    { m with
      running := false, issued := m.issued + 1, state := m.state.fence (m.issued + 1) }
  else m

def step (m : Machine) : Event → Machine × Reply
  | .start => ({ m with running := true }, .nothing)
  | .stop => (m.stop, .nothing)
  | .drop => (m.stop, .nothing)
  | .search q => ({ m with state := { m.state with query := q } }, .nothing)
  | .tick => (if m.running then m.spawn .timer else m, .nothing)
  | .request => (m.spawn .request, .nothing)
  | .begin id => (m.begin id, .nothing)
  | .answer id result => m.answer id result
  | .minted result => m.minted result

/-- The machine after some events in turn. -/
def run (m : Machine) (events : List Event) : Machine :=
  events.foldl (fun m e => (m.step e).1) m

@[simp] theorem run_nil (m : Machine) : m.run [] = m := rfl

@[simp] theorem run_cons (m : Machine) (e : Event) (es : List Event) :
    m.run (e :: es) = (m.step e).1.run es := rfl

theorem run_append (m : Machine) (es fs : List Event) :
    m.run (es ++ fs) = (m.run es).run fs := by
  simp [run, List.foldl_append]

theorem run_concat (m : Machine) (es : List Event) (e : Event) :
    m.run (es ++ [e]) = ((m.run es).step e).1 := by
  simp [run_append]

end Machine

end FeedExplorer.Feed
