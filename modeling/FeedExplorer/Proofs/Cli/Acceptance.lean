import FeedExplorer.Proofs.Cli.Persistence
import FeedExplorer.Proofs.Source.Address

/-!
# Taking an address

Which texts are taken as the address of the feed, by the command that sets one and on the screen
that asks for one. Main statement: those that can be read as an address, whatever their scheme;
of these the addresses of the web have a host and can be spoken to, and through the others nothing
is ever sent.
-/

namespace FeedExplorer

open Disk (Place)
open Source (Client)

/-- The screen takes what is not blank and can be read as an address. -/
theorem Session.submit_eq_ok_iff (s : Session) (disk : Disk) (home : Place) :
    (∃ after, s.submit disk home = .ok after) ↔
      Text.trim s.address.text ≠ "" ∧ ∃ u, Url.parse (Text.trim s.address.text) = .ok u := by
  rw [← Client.connect_eq_ok_iff (p := s.config.protocol)]
  unfold submit
  dsimp only
  by_cases hblank : Text.trim s.address.text = ""
  · simp [hblank]
  · rw [if_neg (by simpa [String.isEmpty_iff] using hblank)]
    cases Client.connect (Text.trim s.address.text) s.config.protocol <;> simp [hblank]

namespace Cli

/-- The command takes what can be read as an address, if it can be kept. -/
theorem setRpc_eq_ok_iff (config : Config) (url : String) (home : Place) (disk : Disk)
    (n : Net.Network) :
    (∃ text, (setRpc config url home disk n).result = .ok text) ↔
      (∃ u, Url.parse url = .ok u) ∧ ((config.withRpcUrl url).keep disk home).1 = .ok () := by
  rw [← Client.connect_eq_ok_iff (p := config.protocol)]
  unfold setRpc
  cases Client.connect url config.protocol with
  | error t => simp
  | ok client =>
    generalize (config.withRpcUrl url).keep disk home = kept
    obtain ⟨kept, after⟩ := kept
    cases kept <;> simp [Except.map]

theorem run_setRpc_exit_iff {s : Surroundings} {words : List String} {i : Invocation}
    {before : Config} {url : String} (hwords : parse s.env words = .ok i)
    (hbefore : Config.load s.disk s.home = .ok before) (hcommand : i.command = some (.setRpc url)) :
    (run s words).exit = 0 ↔ (∃ u, Url.parse url = .ok u) ∧
      ((addressed before i url).keep (openedDisk s) s.home).1 = .ok () := by
  have hexit := (run_of_parse hwords hbefore).2
  rw [hcommand, runCommand, setRpc_eq_ok_iff, withRpcUrl_override] at hexit
  exact hexit

/-- The screen and the command take just the texts that can be read as an address, and what the
command has taken is kept. Of the addresses that can be read those of the web have a host, and a
request is sent to it; through a client for any other address nothing is sent, and every call
fails. There is one for every text with an unknown scheme that no two slashes follow. -/
theorem addresses_taken (text : String) :
    (∀ (s : Session) (disk : Disk) (home : Place), Text.trim s.address.text = text →
      ((∃ after, s.submit disk home = .ok after) ↔ text ≠ "" ∧ ∃ u, Url.parse text = .ok u)) ∧
    (∀ (s : Surroundings) (words : List String) (i : Invocation) (before : Config),
      parse s.env words = .ok i → Config.load s.disk s.home = .ok before →
      i.command = some (.setRpc text) →
        ((run s words).exit = 0 ↔ (∃ u, Url.parse text = .ok u) ∧
          ((addressed before i text).keep (openedDisk s) s.home).1 = .ok ()) ∧
        ((run s words).exit = 0 →
          Config.load (run s words).disk s.home = .ok (addressed before i text))) ∧
    (∀ u, Url.parse text = .ok u →
      (∃ rest, Url.scheme? (Url.clean text.toList) = some (u.scheme, rest)) ∧
      (∀ p, ∃ client, Client.connect text p = .ok client ∧ client.IsFor u) ∧
      (u.isWeb = true → (∃ host, u.host = some host ∧ host ≠ .name "") ∧
        (u.scheme = "http" → ∃ n : Net.Network, n.reaches u = true) ∧
        ∀ client : Client, client.IsFor u → client.Speaks u) ∧
      (u.isWeb = false → ∀ client : Client, client.IsFor u → client.Mute)) ∧
    ∀ scheme rest, Url.scheme? (Url.clean text.toList) = some (scheme, rest) → scheme ≠ "file" →
      Url.isSpecialScheme scheme = false → ¬ ['/', '/'] <+: rest →
        ∃ u, Url.parse text = .ok u ∧ u.isWeb = false ∧ u.host = none := by
  refine ⟨?_, ?_, ?_, ?_⟩
  · rintro s disk home rfl
    exact s.submit_eq_ok_iff disk home
  · intro s words i before hwords hbefore hcommand
    exact ⟨run_setRpc_exit_iff hwords hbefore hcommand, (run_setRpc hwords hbefore hcommand).1⟩
  · intro u hu
    refine ⟨Url.scheme_of_parse hu, Client.connect_of_parse hu, fun hweb => ?_,
      fun hweb _ hclient => hclient.mute hweb⟩
    obtain ⟨hbase, host, hhost, hne⟩ := Url.host_of_parse hu (Url.isSpecialScheme_of_isWeb hweb)
    exact ⟨⟨host, hhost, hne⟩, fun hscheme => Net.exists_reaches hscheme hhost,
      fun _ hclient => hclient.speaks hweb hbase⟩
  · exact fun _ _ => Url.parse_of_unknown_scheme

/-- Someone has left out the scheme. -/
def schemelessAddress : String := "localhost:3030"

theorem parse_setRpc_schemeless : parse plainHome.env ["set-rpc", schemelessAddress] =
    .ok ⟨none, false, some (.setRpc schemelessAddress)⟩ :=
  Json.toOption_eq_some_iff.mp (by decide +kernel)

theorem keep_schemeless :
    ((addressed quietConfig ⟨none, false, some (.setRpc schemelessAddress)⟩
      schemelessAddress).keep (openedDisk plainHome) plainHome.home).1 = .ok () :=
  Json.toOption_eq_some_iff.mp (by decide +kernel)

theorem scheme_schemeless :
    Url.scheme? (Url.clean schemelessAddress.toList) = some ("localhost", "3030".toList) := by
  decide +kernel

/-- An address whose scheme has been left out is kept, and nothing can be asked for there. -/
theorem addresses_taken_schemeless :
    (run plainHome ["set-rpc", schemelessAddress]).exit = 0 ∧
      Config.load (run plainHome ["set-rpc", schemelessAddress]).disk plainHome.home =
        .ok (quietConfig.withRpcUrl schemelessAddress) ∧
      ∃ client, Client.connect schemelessAddress .rpc = .ok client ∧ client.Mute := by
  obtain ⟨-, hcommand, hread, hunknown⟩ := addresses_taken schemelessAddress
  obtain ⟨hexit, hload⟩ := hcommand plainHome _ _ _ parse_setRpc_schemeless load_plainHome rfl
  obtain ⟨u, hu, hweb, -⟩ := hunknown _ _ scheme_schemeless (by decide) (by decide) (by decide)
  obtain ⟨-, hclient, -, hmute⟩ := hread u hu
  obtain ⟨client, hconnect, hfor⟩ := hclient .rpc
  have htaken := hexit.mpr ⟨⟨u, hu⟩, keep_schemeless⟩
  exact ⟨htaken, hload htaken, client, hconnect, hmute hweb client hfor⟩

/-- The command succeeds with an address that has no host and is none of the web. -/
theorem takes_address_without_host :
    (run plainHome ["set-rpc", schemelessAddress]).exit = 0 ∧
      ∃ u, Url.parse schemelessAddress = .ok u ∧ u.isWeb = false ∧ u.host = none := by
  obtain ⟨u, hu, hweb, hhost⟩ :=
    Url.parse_of_unknown_scheme scheme_schemeless (by decide) (by decide) (by decide)
  have htaken := (run_setRpc_exit_iff parse_setRpc_schemeless load_plainHome rfl).mpr
    ⟨⟨u, hu⟩, keep_schemeless⟩
  exact ⟨htaken, u, hu, hweb, hhost⟩

end Cli

end FeedExplorer
