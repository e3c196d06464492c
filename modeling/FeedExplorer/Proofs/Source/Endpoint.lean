import FeedExplorer.Proofs.Source.Address
import FeedExplorer.Proofs.Url.Segments

/-!
# Endpoints below an address

A client of plain requests makes them to addresses below the one it has been made for. Main
statement: such an address has the whole path of the other one in front of the name of the endpoint,
and everything in front of the path in common with it.
-/

namespace FeedExplorer.Source

open Net (Network)
open Url (PlainName)

namespace RestCall

theorem plainName_endpoint (k : RestCall) : PlainName k.endpoint := by
  cases k with
  | fetch => exact Url.plainName_get_all_blocks
  | mint => exact Url.plainName_create_block

end RestCall

variable {text : String} {c : RestClient}

theorem ofUrl_eq_ok_iff :
    RestClient.ofUrl text = .ok c ↔ ∃ u, Url.parse text = .ok u ∧ c = ⟨u.closed⟩ := by
  rw [RestClient.ofUrl]
  cases Url.parse text with
  | ok u => simp [eq_comm]
  | error fault => simp

/-- The endpoints of a client for an address of the web lie below it. -/
theorem exists_endpoint_below {u : Url} (hu : Url.parse text = .ok u) (hweb : u.isWeb = true)
    {name : String} (hname : PlainName name) :
    ∃ v, (RestClient.mk u.closed).endpoint name = .ok v ∧ u.Below name v ∧
      ∀ n : Network, n.reaches v = n.reaches u := by
  obtain ⟨parts, hpath, hparts⟩ :=
    Url.segmented_of_parse hu (Url.isSpecialScheme_of_isWeb hweb)
  have hbase : u.closed.canBeBase = true := by
    rw [Url.canBeBase_closed, Url.canBeBase, hpath]
  refine ⟨u.closed.beside name, ?_, Url.below_closed hpath hparts name, fun _ => rfl⟩
  rw [RestClient.endpoint, hname.join_eq, if_pos hbase]

/-- A request to an address below another one is made for the path of that one, closed and with the
name behind it. -/
theorem exists_sent_below {u v : Url} {name : String} (hbelow : u.Below name v)
    (hweb : u.isWeb = true) (method : Net.Method) (body : Option Json) {n : Network}
    (hreach : n.reaches v = true) :
    ∃ later, (Net.request method body v n).2.requests = n.requests ++
      { method, target := Url.slashed u.path.text ++ name, body } :: later := by
  have hvweb : v.isWeb = true := by
    rw [Url.isWeb, hbelow.scheme]
    exact hweb
  rw [← Url.target_of_below hbelow]
  exact Net.exists_sent_of_reached Net.maxRedirects method body hvweb hreach

/-- An address of the web that gains a slash at the end of its path makes the same client. -/
theorem ofUrl_of_gainsSlash {u u' : Url} {text' : String} (hu : Url.parse text = .ok u)
    (hweb : u.isWeb = true) (hu' : Url.parse text' = .ok u') (hgains : u.GainsSlash u') :
    RestClient.ofUrl text' = .ok ⟨u.closed⟩ := by
  have hspecial := Url.isSpecialScheme_of_isWeb hweb
  have hspecial' : Url.isSpecialScheme u'.scheme = true := by
    rw [hgains.same]
    exact hspecial
  obtain ⟨parts, hpath, hparts⟩ := Url.segmented_of_parse hu hspecial
  obtain ⟨parts', hpath', hparts'⟩ := Url.segmented_of_parse hu' hspecial'
  refine ofUrl_eq_ok_iff.mpr ⟨u', hu', ?_⟩
  rw [Url.closed_eq_of_gainsSlash hpath hpath' hparts hparts' hgains]

/-- Both calls of a client that has been made for an address of the web make their request to an
address below it: all of the other up to its query, then a slash if there is none, and the name of
the endpoint. This path is what the server sees. A slash at the end of a path that has none makes no
other client. -/
theorem requests_below_path (hclient : RestClient.ofUrl text = .ok c)
    (hweb : c.base.isWeb = true) :
    ∃ u, Url.parse text = .ok u ∧
      (∀ k : RestCall, ∃ v, c.endpoint k.endpoint = .ok v ∧ u.Below k.endpoint v ∧
        v.text = u.origin ++ (Url.slashed u.path.text ++ k.endpoint) ∧ ∀ n : Network,
          (∃ e, k.run c n = (RestClient.settle k.payload (Net.request k.method none v (n.note e)).1,
            (Net.request k.method none v (n.note e)).2)) ∧
          (n.reaches u = true → ∃ later, (k.run c n).2.requests = n.requests ++
            { method := k.method, target := Url.slashed u.path.text ++ k.endpoint, body := none } ::
              later)) ∧
      ∀ text' u', Url.parse text' = .ok u' → u.GainsSlash u' →
        RestClient.ofUrl text' = .ok c := by
  obtain ⟨u, hu, rfl⟩ := ofUrl_eq_ok_iff.mp hclient
  replace hweb : u.isWeb = true := hweb
  refine ⟨u, hu, fun k => ?_, fun _ _ hu' hgains => ofUrl_of_gainsSlash hu hweb hu' hgains⟩
  obtain ⟨v, hv, hbelow, hreaches⟩ := exists_endpoint_below hu hweb k.plainName_endpoint
  obtain ⟨-, host, hhost, -⟩ := Url.host_of_parse hu (Url.isSpecialScheme_of_isWeb hweb)
  refine ⟨v, hv, hbelow, Url.text_of_below hbelow hhost, fun n => ?_⟩
  obtain ⟨e, hask⟩ := exists_ask_eq k.payload k.method k.remark hv n
  rw [k.run_eq_ask, hask]
  refine ⟨⟨e, rfl⟩, fun hreach => ?_⟩
  rw [← hreaches, ← Net.reaches_note n e] at hreach
  exact exists_sent_below hbelow hweb k.method none hreach

/-- An address with a user, a path, a query and a fragment. -/
def crowdedAddress : String := "http://me:pw@127.0.0.1:3030/api/v1?x=1#y"

def crowdedUrl : Url :=
  { scheme := "http", username := "me", password := some "pw", host := some (.ipv4 2130706433)
    port := some 3030, path := .segments ["api", "v1"], query := some "x=1", fragment := some "y" }

theorem requests_below_path_crowded :
    ∃ c, RestClient.ofUrl crowdedAddress = .ok c ∧ c.base.isWeb = true ∧
      (∃ v, c.endpoint "create_block" = .ok v ∧
        v.text = "http://me:pw@127.0.0.1:3030/api/v1/create_block") ∧
      RestClient.ofUrl "http://me:pw@127.0.0.1:3030/api/v1/?x=1#y" = .ok c := by
  have hu : Url.parse crowdedAddress = .ok crowdedUrl :=
    Json.toOption_eq_some_iff.mp (by decide +kernel)
  have hu' : Url.parse "http://me:pw@127.0.0.1:3030/api/v1/?x=1#y" =
      .ok { crowdedUrl with path := .segments ["api", "v1", ""] } :=
    Json.toOption_eq_some_iff.mp (by decide +kernel)
  have hclient := ofUrl_eq_ok_iff.mpr ⟨crowdedUrl, hu, rfl⟩
  have hweb : (RestClient.mk crowdedUrl.closed).base.isWeb = true := by decide +kernel
  obtain ⟨u, hparse, hbelow, hslash⟩ := requests_below_path hclient hweb
  obtain rfl := Except.ok.inj (hu.symm.trans hparse)
  obtain ⟨v, hv, -, htext, -⟩ := hbelow .mint
  refine ⟨_, hclient, hweb, ⟨v, hv, ?_⟩, hslash _ _ hu' ⟨?_, ?_, rfl⟩⟩
  · rw [htext]
    decide +kernel
  · decide +kernel
  · decide +kernel

end FeedExplorer.Source
