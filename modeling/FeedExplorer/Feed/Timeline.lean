import FeedExplorer.Feed.Machine

/-!
# Timelines

A feed against a source that says when it will answer. Time stands still but for `runUntil`,
which lets everything due up to a moment happen in order.
-/

namespace FeedExplorer.Feed

open Chain (Block Failure Query Snapshot)

/-- An answer and how many milliseconds it takes. -/
structure Delayed (α : Type) where
  delay : Nat
  answer : α
  deriving Repr

/-- A block source with a state of its own. A call settles the answer when it starts. -/
structure Source (σ : Type) where
  fetch : σ → Delayed (Except Failure Snapshot) × σ
  mint : σ → Delayed (Except Failure Block) × σ

/-- A source whose answers are laid down. When a list has run out, fetching gives the fallback. -/
structure Script where
  fetches : List (Delayed (Except Failure Snapshot))
  mints : List (Delayed (Except Failure Block))
  fallback : Option (Delayed (Except Failure Snapshot))

/-- Nobody is there to answer. -/
def refusedCall {α : Type} : Delayed (Except Failure α) :=
  ⟨0, .error (.transport "connection refused")⟩

def Script.source : Source Script where
  fetch s :=
    match s.fetches with
    | a :: rest => (a, { s with fetches := rest })
    | [] => (s.fallback.getD refusedCall, s)
  mint s :=
    match s.mints with
    | a :: rest => (a, { s with mints := rest })
    | [] => (refusedCall, s)

/-- Who waits for the end of a call. -/
inductive Owner where
  | timer
  | task (number : Nat)
  /-- The caller itself, who does nothing else meanwhile. -/
  | caller
  deriving DecidableEq, Repr

/-- The events that end a call. -/
structure Due where
  time : Nat
  owner : Owner
  event : Event

structure Timeline (σ : Type) where
  source : σ
  machine : Machine
  now : Nat
  /-- Milliseconds between two ticks. -/
  period : Nat
  nextTick : Option Nat
  /-- Calls under way, by the time of their answers. -/
  due : List Due
  fetchCalls : Nat
  mintCalls : Nat
  /-- How many calls have been started on the side. -/
  tasks : Nat
  /-- The ends of calls, the latest first. -/
  finished : List (Owner × Reply)

namespace Timeline

variable {σ : Type}

def initial (source : σ) (period : Nat) : Timeline σ :=
  { source, machine := .initial, now := 0, period, nextTick := none, due := [], fetchCalls := 0,
    mintCalls := 0, tasks := 0, finished := [] }

/-- Sorts a new item in behind those of the same time. -/
def insertDue (d : Due) : List Due → List Due
  | [] => [d]
  | e :: rest => if d.time < e.time then d :: e :: rest else e :: insertDue d rest

/-- Lets a call end. -/
def finish (t : Timeline σ) (owner : Owner) (event : Event) : Timeline σ :=
  let (machine, reply) := t.machine.step event
  { t with machine, finished := (owner, reply) :: t.finished }

/-- A call that takes no time ends at once. -/
def schedule (t : Timeline σ) (delay : Nat) (owner : Owner) (event : Event) : Timeline σ :=
  if delay = 0 then t.finish owner event
  else { t with due := insertDue ⟨t.now + delay, owner, event⟩ t.due }

/-- The spawned refresh begins and asks the source. -/
def ask (src : Source σ) (t : Timeline σ) (owner : Owner) (spawn : Event) : Timeline σ :=
  let id := t.machine.spawned
  let machine := t.machine.run [spawn, .begin id]
  let (a, source) := src.fetch t.source
  { t with machine, source, fetchCalls := t.fetchCalls + 1 }.schedule a.delay owner
    (.answer id a.answer)

def refresh (src : Source σ) (t : Timeline σ) (owner : Owner) : Timeline σ :=
  t.ask src owner .request

def mint (src : Source σ) (t : Timeline σ) (owner : Owner) : Timeline σ :=
  let (a, source) := src.mint t.source
  { t with source, mintCalls := t.mintCalls + 1 }.schedule a.delay owner (.minted a.answer)

/-- The timer is due, and will be again after a period. -/
def tick (src : Source σ) (t : Timeline σ) (time : Nat) : Timeline σ :=
  { t with now := time, nextTick := some (time + t.period) }.ask src .timer .tick

/-- Lets everything due up to `limit` happen. The first argument bounds the number of events. -/
def drain (src : Source σ) : Nat → Nat → Timeline σ → Timeline σ
  | 0, _, t => t
  | fuel + 1, limit, t =>
    let tickTime := t.nextTick.filter (· ≤ limit)
    match tickTime, t.due with
    | some k, d :: rest =>
      if d.time ≤ k then
        drain src fuel limit ({ t with now := d.time, due := rest }.finish d.owner d.event)
      else drain src fuel limit (t.tick src k)
    | some k, [] => drain src fuel limit (t.tick src k)
    | none, d :: rest =>
      if d.time ≤ limit then
        drain src fuel limit ({ t with now := d.time, due := rest }.finish d.owner d.event)
      else t
    | none, [] => t

/-- Time passes up to `limit`. A tick comes at most once a millisecond and adds one answer. -/
def runUntil (src : Source σ) (t : Timeline σ) (limit : Nat) : Timeline σ :=
  let t := t.drain src (2 * (limit + 1 - t.now) + t.due.length) limit
  { t with now := max t.now limit }

def advance (src : Source σ) (t : Timeline σ) (ms : Nat) : Timeline σ :=
  t.runUntil src (t.now + ms)

/-- When the call of the caller will end. -/
def callerTime? (t : Timeline σ) : Option Nat :=
  (t.due.find? (·.owner == .caller)).map (·.time)

/-- Time passes until the caller's call has ended; what it gave back. -/
def await (src : Source σ) (t : Timeline σ) : Timeline σ × Reply :=
  let t := match t.callerTime? with
    | some time => t.runUntil src time
    | none => t
  (t, (t.finished.lookup .caller).getD .nothing)

/-- The timer ticks at once and then every period. A period of zero gives no ticks. -/
def start (src : Source σ) (t : Timeline σ) : Timeline σ :=
  if t.machine.running then t
  else
    let t := { t with
      machine := (t.machine.step .start).1
      nextTick := if t.period = 0 then none else some t.now }
    t.runUntil src t.now

def stop (t : Timeline σ) : Timeline σ :=
  { t with machine := (t.machine.step .stop).1, nextTick := none }

def search (t : Timeline σ) (text : String) : Timeline σ :=
  { t with machine := (t.machine.step (.search ⟨text⟩)).1 }

/-- Starts a call on the side and gives its number. -/
def spawnRefresh (src : Source σ) (t : Timeline σ) : Timeline σ × Nat :=
  ({ t with tasks := t.tasks + 1 }.refresh src (.task t.tasks), t.tasks)

def spawnMint (src : Source σ) (t : Timeline σ) : Timeline σ × Nat :=
  ({ t with tasks := t.tasks + 1 }.mint src (.task t.tasks), t.tasks)

def awaitRefresh (src : Source σ) (t : Timeline σ) : Timeline σ × Reply :=
  (t.refresh src .caller).await src

def awaitMint (src : Source σ) (t : Timeline σ) : Timeline σ × Reply :=
  (t.mint src .caller).await src

/-- Forgets the ends of calls. -/
def forget (t : Timeline σ) : Timeline σ :=
  { t with finished := [] }

end Timeline

end FeedExplorer.Feed
