import FeedExplorer.Cli.Parse
import FeedExplorer.Config.Store
import FeedExplorer.Feed.Notes
import FeedExplorer.Files.Transfer
import FeedExplorer.Log.File

/-!
# Runs

A run of the program on a command line: what it prints, how it ends, and what it leaves on the
disk and in its log.
-/

namespace FeedExplorer.Cli

open Chain (Block)
open Disk (Place)
open Net (Network)
open Source (Client RpcClient)

/-- The surroundings of a run. -/
structure Surroundings where
  env : String → Option String
  home : Place
  /-- The directory that relative paths start from. -/
  work : Place
  disk : Disk
  network : Network

structure Outcome where
  exit : Nat
  stdout : String
  stderr : String
  disk : Disk
  network : Network
  /-- The lines written to the log. -/
  log : List String

/-- A path on the command line. -/
def placeOf (work : Place) (text : String) : Place :=
  if text.startsWith "/" then ⟨text, Disk.partsOf text⟩
  else ⟨text, work.parts ++ Disk.partsOf text⟩

/-- What a command gives: its output or trouble, and the state of things afterwards. -/
structure Ran where
  result : Except Trouble String
  disk : Disk
  network : Network

def noAddress : Trouble :=
  .plain "No RPC configured. Use 'feedex set-rpc <url>' first."

/-- A block with its transactions on lines of their own. -/
def blockText (b : Block) : String :=
  s!"#{b.index.toNat} {b.hash} ({b.tokens.toNat} tokens)\n" ++
    String.join (b.transactions.map fun t =>
      s!"    {t.sender} -> {t.receiver}  amount {Number.plain t.amount}  " ++
        s!"gas {Number.plain t.gasCost}\n")

/-- The totals of a feed and its filtered blocks. -/
def feedText (s : Feed.State) : String :=
  s!"blocks: {s.totalBlocks}  transactions: {s.filteredTransactionCount}  " ++
    s!"tokens: {s.totalTokens.toNat}\n" ++
    String.join (s.filtered.map blockText)

def setRpc (config : Config) (url : String) (home : Place) (disk : Disk) (n : Network) : Ran :=
  match Client.connect url config.protocol with
  | .error t => ⟨.error t, disk, n⟩
  | .ok _ =>
    let (kept, disk) := (config.withRpcUrl url).keep disk home
    ⟨kept.map fun _ => "RPC set to " ++ url ++ "\n", disk, n⟩

/-- The client for the address of a configuration. -/
def feedClient (config : Config) : Except Trouble Client :=
  match config.rpcUrl with
  | none => .error noAddress
  | some url => Client.connect url config.protocol

def filesClient (config : Config) : Except Trouble RpcClient :=
  match config.effectiveFilesUrl with
  | none => .error noAddress
  | some url => RpcClient.ofUrl url

def blocks (config : Config) (query : Option String) (disk : Disk) (n : Network) : Ran :=
  match feedClient config with
  | .error t => ⟨.error t, disk, n⟩
  | .ok client =>
    let before := { Feed.State.initial with query := ⟨query.getD ""⟩ }
    let (answer, _, n) := client.fetch n
    let n := (Feed.answerNotes before 1 answer).foldl Network.note n
    match before.absorb 1 answer with
    | (state, .applied) => ⟨.ok (feedText state), disk, n⟩
    | (state, _) => ⟨.error (.plain (state.lastError.getD "")), disk, n⟩

def mint (config : Config) (disk : Disk) (n : Network) : Ran :=
  match feedClient config with
  | .error t => ⟨.error t, disk, n⟩
  | .ok client =>
    let (answer, _, n) := client.mint n
    match answer with
    | .ok b => ⟨.ok (blockText b), disk, n⟩
    | .error e => ⟨.error (.caused "Failed to create block" e.message), disk, n⟩

def upload (config : Config) (path : Place) (disk : Disk) (n : Network) : Ran :=
  match filesClient config with
  | .error t => ⟨.error t, disk, n⟩
  | .ok client =>
    let (result, _, n) := Files.upload disk path client n
    match result with
    | .ok f =>
      ⟨.ok s!"Uploaded {f.filename} ({f.size.toNat} bytes) as {f.id}\n", disk, n⟩
    | .error t => ⟨.error t, disk, n⟩

def download (config : Config) (id : String) (out : Place) (disk : Disk) (n : Network) : Ran :=
  match filesClient config with
  | .error t => ⟨.error t, disk, n⟩
  | .ok client =>
    let (result, _, n) := Files.download disk id out client n
    match result with
    | .ok (path, disk) => ⟨.ok ("Saved " ++ path.text ++ "\n"), disk, n⟩
    | .error t => ⟨.error t, disk, n⟩

/-- There is no terminal to draw on. -/
def noTerminal : Trouble :=
  .plain "No such device or address (os error 6)"

def runCommand (s : Surroundings) (config : Config) : Option Command → Disk → Ran
  | none, disk => ⟨.error noTerminal, disk, s.network⟩
  | some (.setRpc url), disk => setRpc config url s.home disk s.network
  | some (.blocks query), disk => blocks config query disk s.network
  | some .mint, disk => mint config disk s.network
  | some (.upload path), disk => upload config (placeOf s.work path) disk s.network
  | some (.download id out), disk => download config id (placeOf s.work out) disk s.network

/-- The configuration with what the command line overrides. -/
def override (config : Config) (i : Invocation) : Config :=
  { config with
    rpcUrl := i.rpcUrl <|> config.rpcUrl
    protocol := if i.rest then .rest else config.protocol }

/-- The directives that the log obeys, and those that are told not to be understood. -/
def logDirectives (env : String → Option String) (config : Config) :
    List Log.Directive × List String :=
  let own := Log.directives ("feedex=" ++ config.logLevel)
  match env "FEEDEX_LOG" with
  | none => own
  | some text =>
    match Log.directives text with
    | (ds, []) => (ds, [])
    | _ => own

def openedEvent (path : Place) : Log.Event :=
  { level := .debug, part := "feedex::logging", message := "logging to file"
    fields := [("path", path.quoted)] }

/-- A run that ends before anything has been done. -/
def Surroundings.stop (s : Surroundings) (exit : Nat) (stdout stderr : String) : Outcome :=
  { exit, stdout, stderr, disk := s.disk, network := s.network, log := [] }

/-- The trouble in words, on a line of their own. -/
def failureText (t : Trouble) : String :=
  "Error: " ++ t.report ++ "\n"

/-- A command line with the configuration that it overrides, or how the run ends without it. -/
def prepare (s : Surroundings) (words : List String) : Except Outcome (Invocation × Config) :=
  match parse s.env words with
  | .error (.help spec) => .error (s.stop 0 (helpText s.env spec) "")
  | .error .version => .error (s.stop 0 versionLine "")
  | .error (.fault fault) => .error (s.stop 2 "" fault.message)
  | .ok invocation =>
    match Config.load s.disk s.home with
    | .error t => .error (s.stop 1 "" (failureText t))
    | .ok config => .ok (invocation, config)

/-- What is told when the log does not obey a directive, or cannot be opened. -/
def logWarnings (ignored : List String) (log : Option Place) : String :=
  String.join (ignored.map fun d => "ignoring `" ++ d ++ "`: invalid filter directive\n") ++
    if log.isNone then "feedex: log file unavailable, logging disabled\n" else ""

/-- The lines of a log, if it could be opened. -/
def logLines (directives : List Log.Directive) (log : Option Place) (events : List Log.Event) :
    List String :=
  match log with
  | none => []
  | some path => ((openedEvent path :: events).filter (Log.allows directives)).map (·.line)

def run (s : Surroundings) (words : List String) : Outcome :=
  match prepare s words with
  | .error outcome => outcome
  | .ok (invocation, config) =>
    let (directives, ignored) := logDirectives s.env config
    let (disk, log) := Log.openIn s.disk (Config.directory s.home)
    let told := logWarnings ignored log
    let ran := runCommand s (override config invocation) invocation.command disk
    let lines := logLines directives log ran.network.log
    match ran.result with
    | .ok text =>
      { exit := 0, stdout := text, stderr := told, disk := ran.disk, network := ran.network
        log := lines }
    | .error t =>
      { exit := 1, stdout := "", stderr := told ++ failureText t
        disk := ran.disk, network := ran.network, log := lines }

end FeedExplorer.Cli
