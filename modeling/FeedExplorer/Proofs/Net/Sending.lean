import FeedExplorer.Source.Client

/-!
# What is sent

The requests that one exchange adds to those of the network. Main statements: none for an address
that is not one of the web, the one that was asked for first if the server is there, and on the
way through redirections never another body.
-/

namespace FeedExplorer

namespace Net

variable {fuel : Nat} {method : Method} {body : Option Json} {u : Url} {n : Network}

/-- No request can be made to such an address. -/
theorem send_of_not_web (h : u.isWeb = false) :
    send fuel method body u n = (.failed (about "builder error" u), n) := by
  rw [send, if_pos (by simp [h])]

theorem send_of_not_reached (hweb : u.isWeb = true) (h : n.reaches u = false) :
    send fuel method body u n = (.failed (about "error sending request" u), n) := by
  rw [send, if_neg (by simp [hweb]), if_pos (by simp [h])]

/-- A server can be at any host that is spoken to in the open. -/
theorem exists_reaches {host : Url.Host} (hscheme : u.scheme = "http")
    (hhost : u.host = some host) : ∃ n : Network, n.reaches u = true := by
  refine ⟨{ Network.empty with server := some (host, u.port.getD 80) }, ?_⟩
  simp [Network.reaches, hscheme, hhost]

theorem take_requests (r : Request) : (n.take r).2.requests = n.requests ++ [r] := by
  unfold Network.take
  split <;> rfl

/-- On the way a request keeps its body or loses it. -/
theorem body_of_redirected? {status : Nat} {location : Option String} {method' : Method}
    {body' : Option Json} {there : Url}
    (h : redirected? method body u status location = some (method', body', there)) :
    body' = body ∨ body' = none := by
  cases hredirect : isRedirect status with
  | false => simp [redirected?, hredirect] at h
  | true =>
    simp only [redirected?, hredirect, Bool.not_true, Bool.false_eq_true, if_false,
      Option.bind_eq_bind, Option.bind_eq_some_iff] at h
    obtain ⟨text, -, url, -, h⟩ := h
    split at h
    · obtain ⟨-, rfl, -⟩ := by simpa using h
      exact .inr rfl
    · obtain ⟨-, rfl, -⟩ := by simpa using h
      exact .inl rfl

/-- The request that was asked for is sent, and if there is more it comes of a redirection. -/
theorem send_of_reached (fuel : Nat) (method : Method) (body : Option Json)
    (hweb : u.isWeb = true) (h : n.reaches u = true) :
    ∃ n' : Network, n'.requests = n.requests ++ [{ method, target := u.target, body }] ∧
      ((send fuel method body u n).2 = n' ∨
        ∃ fuel' method' body' there, fuel = fuel' + 1 ∧ (body' = body ∨ body' = none) ∧
          send fuel method body u n = send fuel' method' body' there n') := by
  refine ⟨(n.take { method, target := u.target, body }).2, take_requests _, ?_⟩
  rw [send, if_neg (by simp [hweb]), if_neg (by simp [h])]
  rcases n.take { method, target := u.target, body } with ⟨_ | _ | _, n'⟩
  · dsimp only
    split
    · next hthere =>
      cases fuel with
      | zero => exact .inl rfl
      | succ fuel => exact .inr ⟨fuel, _, _, _, rfl, body_of_redirected? hthere, rfl⟩
    · exact .inl rfl
  · exact .inl rfl
  · exact .inl rfl

/-- No request on the way has another body. -/
theorem exists_sent (fuel : Nat) (method : Method) (body : Option Json) (u : Url) (n : Network) :
    ∃ sent, (send fuel method body u n).2.requests = n.requests ++ sent ∧
      ∀ r ∈ sent, r.body = body ∨ r.body = none := by
  induction fuel using Nat.strongRecOn generalizing method body u n with
  | ind fuel ih =>
    cases hweb : u.isWeb with
    | false => exact ⟨[], by simp [send_of_not_web hweb], by simp⟩
    | true =>
    cases hreach : n.reaches u with
    | false => exact ⟨[], by simp [send_of_not_reached hweb hreach], by simp⟩
    | true =>
    obtain ⟨n', hn', hdone | ⟨fuel', method', body', there, rfl, hbody, hagain⟩⟩ :=
      send_of_reached fuel method body hweb hreach
    · exact ⟨_, by rw [hdone, hn'], by simp⟩
    · obtain ⟨later, hlater, hbodies⟩ := ih fuel' (by omega) method' body' there n'
      refine ⟨_ :: later, by rw [hagain, hlater, hn', List.append_assoc]; rfl, ?_⟩
      rintro r (_ | ⟨_, hr⟩)
      · exact .inl rfl
      · rcases hbody with rfl | rfl
        · exact hbodies r hr
        · exact .inr ((hbodies r hr).elim id id)

/-- What is sent begins with the request that was asked for. -/
theorem exists_sent_of_reached (fuel : Nat) (method : Method) (body : Option Json)
    (hweb : u.isWeb = true) (h : n.reaches u = true) :
    ∃ later, (send fuel method body u n).2.requests =
      n.requests ++ { method, target := u.target, body } :: later := by
  obtain ⟨n', hn', hdone | ⟨fuel', method', body', there, -, -, hagain⟩⟩ :=
    send_of_reached fuel method body hweb h
  · exact ⟨[], by rw [hdone, hn']⟩
  · obtain ⟨sent, hsent, -⟩ := exists_sent fuel' method' body' there n'
    exact ⟨sent, by rw [hagain, hsent, hn', List.append_assoc]; rfl⟩

end Net

/-- A call is noted and then made. -/
theorem Source.RpcClient.exists_call_eq {α : Type} (decode : Json → Except Json.Mismatch α)
    (method : String) (params : Json) (c : RpcClient) (n : Net.Network) :
    ∃ e, (c.call decode method params n).2.2 =
      (Net.request .post (some (callBody c.nextId method params)) c.url (n.note e)).2 :=
  ⟨_, rfl⟩

end FeedExplorer
