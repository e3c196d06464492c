import FeedExplorer.Proofs.Net.Sending
import FeedExplorer.Proofs.Source.Outcome
import FeedExplorer.Proofs.Url.Reading

/-!
# Clients and their addresses

A client is made for every address that can be read. Main statements: through a client for an
address of the web a request is sent, through any other none is, and every call has failed.
-/

namespace FeedExplorer.Source

open Chain (Failure Protocol Snapshot mintedBlock)
open Json (Mismatch)
open Net (Network)
open Url (PlainName)

variable {u : Url} {text : String} {n : Network}

namespace Client

/-- The client has been made for the address, and any number of calls ago. -/
def IsFor (u : Url) : Client → Prop
  | .rpc c => c.url = u
  | .rest c => c.base = u.closed

theorem connect_of_parse (h : Url.parse text = .ok u) (p : Protocol) :
    ∃ client, connect text p = .ok client ∧ client.IsFor u := by
  cases p with
  | rpc => exact ⟨.rpc ⟨u, 0⟩, by rw [connect, RpcClient.ofUrl, h]; rfl, rfl⟩
  | rest => exact ⟨.rest ⟨u.closed⟩, by rw [connect, RestClient.ofUrl, h]; rfl, rfl⟩

theorem connect_eq_ok_iff {p : Protocol} :
    (∃ client, connect text p = .ok client) ↔ ∃ u, Url.parse text = .ok u := by
  constructor
  · rintro ⟨client, hclient⟩
    cases hparse : Url.parse text with
    | ok u => exact ⟨u, rfl⟩
    | error fault =>
      cases p <;>
        simp [connect, RpcClient.ofUrl, RestClient.ofUrl, hparse, Except.map] at hclient
  · rintro ⟨u, hu⟩
    obtain ⟨client, hclient, -⟩ := connect_of_parse hu p
    exact ⟨client, hclient⟩

/-- No call through the client sends anything, and each of them fails. -/
def Mute (client : Client) : Prop :=
  ∀ n : Network, ((∃ text, (client.fetch n).1 = .error (.transport text)) ∧
      (client.fetch n).2.2.requests = n.requests) ∧
    (∃ text, (client.mint n).1 = .error (.transport text)) ∧
      (client.mint n).2.2.requests = n.requests

/-- Each call through the client sends a request, if there is a server at the address. -/
def Speaks (u : Url) (client : Client) : Prop :=
  ∀ n : Network, n.reaches u = true →
    (∃ r later, (client.fetch n).2.2.requests = n.requests ++ r :: later) ∧
      ∃ r later, (client.mint n).2.2.requests = n.requests ++ r :: later

end Client

/-! ## Calls by remote procedures -/

section call

variable {α : Type} (decode : Json → Except Mismatch α) (method : String) (params : Json)
  {c : RpcClient}

theorem call_of_not_web (h : c.url.isWeb = false) (n : Network) :
    (∃ text, (c.call decode method params n).1 = .error (.transport text)) ∧
      (c.call decode method params n).2.2.requests = n.requests := by
  obtain ⟨e, hcall⟩ := RpcClient.exists_call_eq decode method params c n
  constructor
  · rw [RpcCall.fst_call, Net.request, Net.send_of_not_web h]
    exact ⟨_, rfl⟩
  · rw [hcall, Net.request, Net.send_of_not_web h]
    rfl

theorem call_of_reached (hweb : c.url.isWeb = true) (h : n.reaches c.url = true) :
    ∃ r later, (c.call decode method params n).2.2.requests = n.requests ++ r :: later := by
  obtain ⟨e, hcall⟩ := RpcClient.exists_call_eq decode method params c n
  rw [← Net.reaches_note n e] at h
  obtain ⟨later, hlater⟩ := Net.exists_sent_of_reached Net.maxRedirects .post
    (some (RpcClient.callBody c.nextId method params)) hweb h
  exact ⟨_, later, by rw [hcall]; exact hlater⟩

end call

/-! ## Plain requests -/

section ask

variable {α : Type} (decode : Json → Except Mismatch α) (method : Net.Method) {name : String}
  (message : String) {c : RestClient}

theorem exists_ask_eq (h : c.endpoint name = .ok u) (n : Network) :
    ∃ e, c.ask decode method name message n =
      (RestClient.settle decode (Net.request method none u (n.note e)).1,
        (Net.request method none u (n.note e)).2) := by
  rw [RestClient.ask, h]
  exact ⟨_, rfl⟩

/-- An endpoint is where the address is. -/
theorem exists_endpoint_eq (hname : PlainName name) (hbase : c.base.canBeBase = true) :
    ∃ u, c.endpoint name = .ok u ∧ u.isWeb = c.base.isWeb ∧
      ∀ n : Network, n.reaches u = n.reaches c.base := by
  rw [RestClient.endpoint, hname.join_eq, if_pos hbase]
  exact ⟨_, rfl, rfl, fun _ => rfl⟩

theorem ask_of_not_web (hname : PlainName name) (h : c.base.isWeb = false) (n : Network) :
    (∃ text, (c.ask decode method name message n).1 = .error (.transport text)) ∧
      (c.ask decode method name message n).2.requests = n.requests := by
  cases hbase : c.base.canBeBase with
  | false =>
    rw [RestClient.ask, RestClient.endpoint, hname.join_eq, hbase]
    exact ⟨⟨_, rfl⟩, rfl⟩
  | true =>
    obtain ⟨u, hu, hweb, -⟩ := exists_endpoint_eq hname hbase
    obtain ⟨e, hask⟩ := exists_ask_eq decode method message hu n
    rw [hask, Net.request, Net.send_of_not_web (hweb.trans h)]
    exact ⟨⟨_, rfl⟩, rfl⟩

theorem ask_of_reached (hname : PlainName name) (hbase : c.base.canBeBase = true)
    (hweb : c.base.isWeb = true) (h : n.reaches c.base = true) :
    ∃ r later, (c.ask decode method name message n).2.requests = n.requests ++ r :: later := by
  obtain ⟨u, hu, hsame, hreaches⟩ := exists_endpoint_eq hname hbase
  obtain ⟨e, hask⟩ := exists_ask_eq decode method message hu n
  rw [← Net.reaches_note n e, ← hreaches] at h
  obtain ⟨later, hlater⟩ :=
    Net.exists_sent_of_reached Net.maxRedirects method none (hsame.trans hweb) h
  exact ⟨_, later, by rw [hask]; exact hlater⟩

end ask

/-! ## Both -/

namespace Client

variable {client : Client}

theorem IsFor.mute (h : client.IsFor u) (hweb : u.isWeb = false) : client.Mute := by
  intro n
  cases client with
  | rpc c =>
    obtain rfl : c.url = u := h
    exact ⟨call_of_not_web Snapshot.ofJson _ _ hweb n, call_of_not_web mintedBlock _ _ hweb n⟩
  | rest c =>
    have hbase : c.base.isWeb = false := by rwa [(h : c.base = u.closed)]
    exact ⟨ask_of_not_web Snapshot.ofJson .get _ Url.plainName_get_all_blocks hbase n,
      ask_of_not_web mintedBlock .post _ Url.plainName_create_block hbase n⟩

theorem IsFor.speaks (h : client.IsFor u) (hweb : u.isWeb = true) (hbase : u.canBeBase = true) :
    client.Speaks u := by
  intro n hreach
  cases client with
  | rpc c =>
    obtain rfl : c.url = u := h
    exact ⟨call_of_reached Snapshot.ofJson _ _ hweb hreach,
      call_of_reached mintedBlock _ _ hweb hreach⟩
  | rest c =>
    have hclosed : c.base.canBeBase = true ∧ c.base.isWeb = true ∧ n.reaches c.base = true := by
      rw [(h : c.base = u.closed), Url.canBeBase_closed]
      exact ⟨hbase, hweb, hreach⟩
    obtain ⟨hbase, hweb, hreach⟩ := hclosed
    exact ⟨ask_of_reached Snapshot.ofJson .get _ Url.plainName_get_all_blocks hbase hweb hreach,
      ask_of_reached mintedBlock .post _ Url.plainName_create_block hbase hweb hreach⟩

end Client

end FeedExplorer.Source
