import FeedExplorer.Cli.Run
import FeedExplorer.Proofs.Session.Setup

/-!
# Keeping an address

What is kept when the address of the feed is set, by a command or on the screen that asks for one.
Main statement: the configuration of before with the new address, and with the protocol of plain
requests if that run was told to use it; when the address is refused no file changes.
-/

namespace FeedExplorer

open Disk (Place)

/-! ## The log -/

namespace Log

/-- No file differs but for one that is called like the log. -/
def Spares (d d' : Disk) : Prop :=
  ∀ path bytes, path.getLast? ≠ some fileName →
    (d'.lookup? path = some (.file bytes) ↔ d.lookup? path = some (.file bytes))

theorem Spares.extends {d d' d'' : Disk} (h : Spares d d') (h' : d'.Extends d'') :
    Spares d d'' :=
  fun path bytes hpath => (h'.file_iff path bytes).trans (h path bytes hpath)

theorem join_fileName (dir : Place) : (dir.join fileName).parts = dir.parts ++ [fileName] := by
  have hslash : fileName.startsWith "/" = false := by decide +kernel
  have hparts : Disk.partsOf fileName = [fileName] := by decide +kernel
  rw [Place.join, if_neg (by rw [hslash]; decide), hparts]

theorem spares_openIn (d : Disk) (dir : Place) : Spares d (openIn d dir).1 := by
  intro path bytes hpath
  unfold openIn
  dsimp only
  split
  · rfl
  next made hmade =>
  have hfiles := (Disk.extends_makeDirectories hmade).file_iff path bytes
  split
  · exact hfiles
  next there hthere =>
  have hlast : there.getLast? = some fileName := by
    unfold Disk.locate at hthere
    split at hthere
    · cases hthere
    · rw [join_fileName] at hthere
      exact Disk.getLast?_follow (by decide) hthere
  split
  · exact hfiles
  · exact hfiles
  · have hne : there ≠ [] := by
      rintro rfl
      cases hlast
    have hother : path ≠ there := by
      rintro rfl
      exact hpath hlast
    rw [Disk.lookup?_put hne, if_neg hother]
    exact hfiles

end Log

namespace Cli

open Session (Loop)
open Source (Client)

variable {s : Surroundings} {words : List String} {i : Invocation} {before : Config}

/-- The configuration with another address, and with the protocol that the command line asks
for. -/
def addressed (before : Config) (i : Invocation) (url : String) : Config :=
  { before with
    rpcUrl := some url
    protocol := if i.rest then .rest else before.protocol }

theorem withRpcUrl_override (before : Config) (i : Invocation) (url : String) :
    (override before i).withRpcUrl url = addressed before i url := rfl

/-- The address alone is another one just when the protocol asked for is the one of before, or none
is asked for. -/
theorem addressed_eq_withRpcUrl_iff {url : String} :
    addressed before i url = before.withRpcUrl url ↔ (i.rest = true → before.protocol = .rest) := by
  cases hrest : i.rest <;> cases hprotocol : before.protocol <;>
    simp [addressed, Config.withRpcUrl, hrest, hprotocol]

/-- The disk once the log has been opened. -/
def openedDisk (s : Surroundings) : Disk :=
  (Log.openIn s.disk (Config.directory s.home)).1

/-- The loop that the program runs on a terminal when there is no command. -/
def openLoop (s : Surroundings) (before : Config) (i : Invocation) : Loop :=
  .start (.start (override before i)) (openedDisk s) s.home

/-! ## The command -/

theorem run_of_parse (hwords : parse s.env words = .ok i)
    (hbefore : Config.load s.disk s.home = .ok before) :
    (run s words).disk = (runCommand s (override before i) i.command (openedDisk s)).disk ∧
      ((run s words).exit = 0 ↔
        ∃ text, (runCommand s (override before i) i.command (openedDisk s)).result = .ok text) := by
  have hprepare : prepare s words = .ok (i, before) := by
    rw [prepare, hwords]
    dsimp only
    rw [hbefore]
  rw [run, hprepare]
  dsimp only [openedDisk]
  split <;> simp_all

/-- The address is kept, or there is trouble and no file has changed. -/
theorem setRpc_cases (config : Config) (url : String) (home : Place) (disk : Disk)
    (n : Net.Network) :
    (∃ text, (setRpc config url home disk n).result = .ok text ∧
        Config.load (setRpc config url home disk n).disk home = .ok (config.withRpcUrl url)) ∨
      ∃ t, (setRpc config url home disk n).result = .error t ∧
        disk.Extends (setRpc config url home disk n).disk := by
  unfold setRpc
  cases Client.connect url config.protocol with
  | error t => exact .inr ⟨t, rfl, .refl disk⟩
  | ok client =>
    rcases Config.keep_cases (config.withRpcUrl url) disk home with
      ⟨t, after, hkeep, hextends⟩ | ⟨_, _, after, _, _, _, hkeep⟩
    · rw [hkeep]
      exact .inr ⟨t, rfl, hextends⟩
    · have hload := Config.load_of_keep hkeep
      rw [hkeep]
      exact .inl ⟨_, rfl, hload⟩

theorem setRpc_of_refused {config : Config} {url : String} {t : Trouble} (home : Place)
    (disk : Disk) (n : Net.Network) (h : Client.connect url config.protocol = .error t) :
    (setRpc config url home disk n).result = .error t := by
  rw [setRpc, h]

/-- What a command line that sets the address keeps. -/
theorem run_setRpc {url : String} (hwords : parse s.env words = .ok i)
    (hbefore : Config.load s.disk s.home = .ok before) (hcommand : i.command = some (.setRpc url)) :
    ((run s words).exit = 0 →
        Config.load (run s words).disk s.home = .ok (addressed before i url)) ∧
      ((run s words).exit ≠ 0 → Log.Spares s.disk (run s words).disk) ∧
      ∀ t, Client.connect url (override before i).protocol = .error t →
        (run s words).exit ≠ 0 := by
  obtain ⟨hdisk, hexit⟩ := run_of_parse hwords hbefore
  rw [hcommand, runCommand] at hdisk hexit
  rw [hdisk, ← withRpcUrl_override before i url]
  simp only [ne_eq, hexit]
  refine ⟨?_, ?_, ?_⟩
  · rintro ⟨text, htext⟩
    rcases setRpc_cases (override before i) url s.home (openedDisk s) s.network with
      ⟨_, -, hload⟩ | ⟨t, ht, -⟩
    · exact hload
    · rw [ht] at htext
      cases htext
  · intro hfails
    rcases setRpc_cases (override before i) url s.home (openedDisk s) s.network with
      ⟨text, htext, -⟩ | ⟨t, -, hextends⟩
    · exact absurd ⟨text, htext⟩ hfails
    · exact (Log.spares_openIn s.disk _).extends hextends
  · rintro t hrefused ⟨text, htext⟩
    rw [setRpc_of_refused _ _ _ hrefused] at htext
    cases htext

/-! ## The screen -/

/-- What the enter key keeps on a screen that asks for an address. -/
theorem enter_of_setup {es : List Loop.Event} {l l' : Loop} (hl : (openLoop s before i).run es = l)
    (hsetup : l.session.needsSetup = true) (hl' : l.step (.press .enter) = l') :
    (l'.session.needsSetup = false → l'.session.status = none → ∀ fs,
        Config.load (l'.run fs).disk s.home =
          .ok (addressed before i (Text.trim l.session.address.text))) ∧
      (l'.session.needsSetup = true → Log.Spares s.disk l'.disk) ∧
      ∀ t, Client.connect (Text.trim l.session.address.text) (override before i).protocol =
        .error t → l'.session.needsSetup = true := by
  have hstands : l.standing = (openLoop s before i).standing := by
    subst hl
    exact Loop.standing_run_of_setup hsetup
  have hconfig : l.session.config = override before i := congrArg (fun t => t.1.1) hstands
  have hdisk : l.disk = openedDisk s := congrArg (fun t => t.2.1) hstands
  have hhome : l.home = s.home := congrArg (fun t => t.2.2) hstands
  have hcases := Loop.step_cases l (.press .enter)
  rw [hl'] at hcases
  rcases hcases with hsame | ⟨-, -, htakes⟩
  · have hstill := (Loop.needsSetup_eq hsame).trans hsetup
    have hspared : l'.disk = openedDisk s := (congrArg (fun t => t.2.1) hsame).trans hdisk
    refine ⟨fun hfeed => ?_, fun _ => ?_, fun _ _ => hstill⟩
    · rw [hstill] at hfeed
      cases hfeed
    · rw [hspared]
      exact Log.spares_openIn s.disk _
  · have hfeed := htakes.needsSetup_eq
    refine ⟨fun _ hstatus fs => ?_, fun hstill => ?_, fun t hrefused => ?_⟩
    · have hload := htakes.load_run hstatus fs
      rw [hconfig, hhome] at hload
      exact hload
    · rw [hfeed] at hstill
      cases hstill
    · obtain ⟨client, hclient⟩ := htakes.connect_eq_ok
      rw [hconfig, hrefused] at hclient
      cases hclient

/-! ## Both -/

/-- When an address is set by a command or taken on the screen, the configuration that is loaded
from then on is the one of before with that address, and with the protocol of plain requests if the
command line asks for it. When it is not, no file but the log has changed; that is so for every
address that no client can be made for. -/
theorem load_after_address (s : Surroundings) (words : List String) (i : Invocation)
    (before : Config) (hwords : parse s.env words = .ok i)
    (hbefore : Config.load s.disk s.home = .ok before) :
    (∀ url, i.command = some (.setRpc url) →
      ((run s words).exit = 0 →
          Config.load (run s words).disk s.home = .ok (addressed before i url)) ∧
        ((run s words).exit ≠ 0 → Log.Spares s.disk (run s words).disk) ∧
        ∀ t, Client.connect url (override before i).protocol = .error t →
          (run s words).exit ≠ 0) ∧
    (i.command = none → ∀ es l l', (openLoop s before i).run es = l →
      l.session.needsSetup = true → l.step (.press .enter) = l' →
      (l'.session.needsSetup = false → l'.session.status = none → ∀ fs,
          Config.load (l'.run fs).disk s.home =
            .ok (addressed before i (Text.trim l.session.address.text))) ∧
        (l'.session.needsSetup = true → Log.Spares s.disk l'.disk) ∧
        ∀ t, Client.connect (Text.trim l.session.address.text) (override before i).protocol =
          .error t → l'.session.needsSetup = true) :=
  ⟨fun _ hcommand => run_setRpc hwords hbefore hcommand,
    fun _ _ _ _ hl hsetup hl' => enter_of_setup hl hsetup hl'⟩

/-- A home where the configuration names the protocol of remote procedures and no address. -/
def plainHome : Surroundings where
  env _ := none
  home := Config.userHome
  work := Config.userHome
  disk :=
    ⟨(["home", "u", ".config", "feedex", "config.toml"],
        .file (Config.encodeText "transport = \"rpc\"\nlog_level = \"warn\"\n".toList)) ::
      Config.usedDisk.entries.tail⟩
  network := .empty

/-- The configuration of that home. -/
def quietConfig : Config :=
  { Config.initial with logLevel := "warn" }

def localAddress : String := "http://127.0.0.1:3030"

theorem load_plainHome : Config.load plainHome.disk plainHome.home = .ok quietConfig :=
  Json.toOption_eq_some_iff.mp (by decide +kernel)

/-- The address set by a command that asks for plain requests. -/
theorem parse_setRpc : parse plainHome.env ["--rest", "set-rpc", localAddress] =
    .ok ⟨none, true, some (.setRpc localAddress)⟩ :=
  Json.toOption_eq_some_iff.mp (by decide +kernel)

theorem exit_setRpc : (run plainHome ["--rest", "set-rpc", localAddress]).exit = 0 := by
  rw [(run_of_parse parse_setRpc load_plainHome).2, runCommand]
  have hsome : (setRpc (override quietConfig ⟨none, true, some (.setRpc localAddress)⟩)
      localAddress plainHome.home (openedDisk plainHome) plainHome.network).result.toOption.isSome =
      true := by
    decide +kernel
  obtain ⟨text, htext⟩ := Option.isSome_iff_exists.mp hsome
  exact ⟨text, Json.toOption_eq_some_iff.mp htext⟩

/-- Someone has typed an address with a blank in front of it, and is about to press enter. -/
def typedLoop : Loop :=
  (openLoop plainHome quietConfig ⟨none, true, none⟩).run
    ((" " ++ localAddress).toList.map fun c => .press (.char c))

/-- The configuration kept in both runs; its protocol is not the one that was kept before. -/
def restConfig : Config :=
  { quietConfig with rpcUrl := some localAddress, protocol := .rest }

theorem load_after_address_rest :
    (parse plainHome.env ["--rest", "set-rpc", localAddress] =
        .ok ⟨none, true, some (.setRpc localAddress)⟩ ∧
      Config.load plainHome.disk plainHome.home = .ok quietConfig ∧
      (run plainHome ["--rest", "set-rpc", localAddress]).exit = 0 ∧
      Config.load (run plainHome ["--rest", "set-rpc", localAddress]).disk plainHome.home =
        .ok restConfig) ∧
    (parse plainHome.env ["--rest"] = .ok ⟨none, true, none⟩ ∧
      typedLoop.session.needsSetup = true ∧
      (typedLoop.step (.press .enter)).session.needsSetup = false ∧
      (typedLoop.step (.press .enter)).session.status = none ∧
      Config.load (typedLoop.step (.press .enter)).disk plainHome.home = .ok restConfig) := by
  have hwords : parse plainHome.env ["--rest"] = .ok ⟨none, true, none⟩ :=
    Json.toOption_eq_some_iff.mp (by decide +kernel)
  have hsetup : typedLoop.session.needsSetup = true := by decide +kernel
  have hfeed : (typedLoop.step (.press .enter)).session.needsSetup = false := by decide +kernel
  have hstatus : (typedLoop.step (.press .enter)).session.status = none := by decide +kernel
  have haddress : Text.trim typedLoop.session.address.text = localAddress := by decide +kernel
  refine ⟨⟨parse_setRpc, load_plainHome, exit_setRpc, ?_⟩, hwords, hsetup, hfeed, hstatus, ?_⟩
  · exact ((load_after_address _ _ _ _ parse_setRpc load_plainHome).1 _ rfl).1 exit_setRpc
  · have hload := ((load_after_address _ _ _ _ hwords load_plainHome).2 rfl _ typedLoop _ rfl
      hsetup rfl).1 hfeed hstatus []
    rw [haddress] at hload
    exact hload

/-- A command that sets the address succeeds, and what is loaded afterwards differs from the
configuration of before in more than the address. -/
theorem not_only_address_changes :
    parse plainHome.env ["--rest", "set-rpc", localAddress] =
        .ok ⟨none, true, some (.setRpc localAddress)⟩ ∧
      Config.load plainHome.disk plainHome.home = .ok quietConfig ∧
      (run plainHome ["--rest", "set-rpc", localAddress]).exit = 0 ∧
      Config.load (run plainHome ["--rest", "set-rpc", localAddress]).disk plainHome.home ≠
        .ok (quietConfig.withRpcUrl localAddress) := by
  refine ⟨parse_setRpc, load_plainHome, exit_setRpc, fun h => ?_⟩
  rw [(run_setRpc parse_setRpc load_plainHome rfl).1 exit_setRpc] at h
  have hprotocol := addressed_eq_withRpcUrl_iff.mp (Except.ok.inj h) rfl
  cases hprotocol

end Cli

end FeedExplorer
