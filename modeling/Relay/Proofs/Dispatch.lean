import Relay.Proofs.Exchange
import Relay.Proofs.Forwarder
import Relay.Proofs.Target

/-!
How many requests one request causes, and where they go. The first one goes to the origin. Another
one follows exactly when the reply to the first is a redirect to a server that can be reached: only
then is more than one request sent.
-/

namespace Relay.Forwarder

/-- The reply to the first request is a redirect to a server that can be reached. -/
def Redirected (f : Forwarder) (net : Network) (r : Inbound) : Prop :=
  ∃ out status url, f.prepare r = .ok out ∧ Client.Reaches net (Client.firstHop out) ∧
    Client.Redirects net 0 (Client.firstHop out) status url ∧
    (url.scheme = "http" ∨ url.scheme = "https") ∧ net.dial url = .connected

section

variable {c : Config} {f : Forwarder}

theorem ofConfig_isOrigin (hc : c.validate = .ok c) (hf : ofConfig c.origin = .ok f) :
    ∃ a, f.target.origin.IsOrigin a := by
  obtain ⟨t, a, ht, -, -, horigin⟩ := Target.ofText_of_validate hc
  have heq : t = f.target := Except.ok.inj (ht.symm.trans (ofConfig_ok hf).1)
  exact ⟨a, heq ▸ horigin⟩

theorem firstHop_sameOrigin (hc : c.validate = .ok c) (hf : ofConfig c.origin = .ok f) {r : Inbound}
    {out : Outbound} (hout : f.prepare r = .ok out) :
    (Client.firstHop out).url.sameOrigin f.target.origin = true := by
  obtain ⟨a, horigin⟩ := ofConfig_isOrigin hc hf
  obtain ⟨hscheme, hauthority, -⟩ := Target.resolve_ok horigin (prepare_ok hout).1
  have hfirst : (Client.firstHop out).url.authority = some { a with username := "", password := none } := by
    show out.url.authority.map _ = _
    rw [hauthority]
    rfl
  exact Url.sameOrigin_of_host_eq horigin.scheme hfirst horigin.authority hscheme rfl rfl

theorem length_exchange_iff {client : Client} {net : Network} {out : Outbound}
    (htunnel : ¬client.Tunnels (Client.firstHop out)) :
    (client.exchange net out).1.length ≤ 1 ↔
      ¬∃ status url, Client.Reaches net (Client.firstHop out) ∧
        Client.Redirects net 0 (Client.firstHop out) status url ∧
        Client.Reaches net (Client.nextHop net.headerCopy (Client.firstHop out) status url) := by
  unfold Client.exchange
  rcases Client.follow_cases client Client.maxRedirects 0 net (Client.firstHop out) with
    ⟨hreach, h⟩ | ⟨-, ht, -⟩ | ⟨-, -, hstop, h⟩ | ⟨hreach, -, status, url, left, -, hredirect, h⟩
  · -- nothing was sent at all
    refine iff_of_true (by simp [h]) ?_
    rintro ⟨-, -, hfirst, -⟩
    exact hreach hfirst
  · exact absurd ht htunnel
  · -- the reply is final, since some redirects are allowed
    refine iff_of_true (by simp [h]) ?_
    rintro ⟨status, url, -, hredirect, -⟩
    rcases hstop with hzero | hnone
    · exact absurd hzero (by decide)
    · exact hnone ⟨status, url, hredirect⟩
  · -- the reply is followed: a second request is sent exactly if its server is reached
    rw [h, List.length_cons]
    have hnil := Client.follow_eq_nil_iff client left (0 + 1) net
      (Client.nextHop net.headerCopy (Client.firstHop out) status url)
    constructor
    · rintro hlength ⟨status', url', -, hredirect', hnext⟩
      obtain ⟨rfl, rfl⟩ := hredirect.unique hredirect'
      exact hnil.1 (List.length_eq_zero_iff.1 (by omega)) hnext
    · intro hnone
      have hstop : ¬Client.Reaches net (Client.nextHop net.headerCopy (Client.firstHop out) status url) :=
        fun hnext => hnone ⟨status, url, hreach, hredirect, hnext⟩
      rw [hnil.2 hstop]
      exact Nat.le_refl 1

theorem head?_exchange {client : Client} {net : Network} {out : Outbound}
    (htunnel : ¬client.Tunnels (Client.firstHop out)) {s : Sent}
    (hs : (client.exchange net out).1.head? = some s) : s = client.send (Client.firstHop out) := by
  rcases Client.head?_follow client _ _ hs with ⟨-, h⟩ | ⟨ht, -⟩
  · exact h
  · exact absurd ht htunnel

/-- One request causes no more than one request, and none away from the origin, exactly when the reply
to the first is not followed. The first request goes to the origin in any case. -/
theorem forward_single_iff (hc : c.validate = .ok c) (hproxy : c.origin.useSystemProxy = false)
    (hf : ofConfig c.origin = .ok f) (net : Network) (r : Inbound) :
    (((f.forward net r).2.sent.length ≤ 1 ∧
        ∀ s ∈ (f.forward net r).2.sent, s.url.sameOrigin f.target.origin = true) ↔
      ¬f.Redirected net r) ∧
    (∀ s ∈ (f.forward net r).2.sent.head?, s.url.sameOrigin f.target.origin = true) ∧
    (f.forward net r).2.sent.length ≤ Client.maxRedirects + 1 := by
  rw [forward_sent]
  cases hout : f.prepare r with
  | error e => simp [Redirected, hout]
  | ok out =>
    have htunnel : ¬f.client.Tunnels (Client.firstHop out) := by
      rw [(ofConfig_ok hf).2.1]
      simp [Client.Tunnels, hproxy]
    have hhead : ∀ s ∈ (f.client.exchange net out).1.head?, s.url.sameOrigin f.target.origin = true := by
      intro s hs
      rw [head?_exchange htunnel hs]
      exact firstHop_sameOrigin hc hf hout
    have hiff : (f.client.exchange net out).1.length ≤ 1 ↔ ¬f.Redirected net r := by
      rw [length_exchange_iff htunnel, not_iff_not]
      constructor
      · rintro ⟨status, url, hreach, hredirect, hnext⟩
        exact ⟨out, status, url, hout, hreach, hredirect, hnext.scheme, hnext.dial⟩
      · rintro ⟨out', status, url, hout', hreach, hredirect, hscheme, hdial⟩
        obtain rfl : out = out' := Except.ok.inj (hout.symm.trans hout')
        exact ⟨status, url, hreach, hredirect, hscheme, hredirect.isUri, hdial⟩
    refine ⟨⟨fun h => hiff.1 h.1, fun h => ⟨hiff.2 h, fun s hs => ?_⟩⟩, hhead,
      Client.length_follow f.client Client.maxRedirects 0 net (Client.firstHop out)⟩
    -- a list of at most one request has no request but the first
    have hlength := hiff.2 h
    dsimp only at hs
    cases hlist : (f.client.exchange net out).1 with
    | nil => simp [hlist] at hs
    | cons first more =>
      rw [hlist, List.length_cons] at hlength
      rw [hlist, List.length_eq_zero_iff.1 (show more.length = 0 by omega), List.mem_singleton] at hs
      exact hhead s (by rw [hlist, hs]; rfl)

end

/-- A redirect to another server: the second request leaves the origin. -/
theorem forward_single_iff_redirected :
    let c : Config := { origin := { origin := "http://origin.example" } }
    let net := Network.scripted
      [.answer 302 [("location", Utf8.encode "http://other.example/")] (.ok [])]
    let r : Inbound := { method := .get, path := "/api/x" }
    c.validate = .ok c ∧ c.origin.useSystemProxy = false ∧
      ∃ f, ofConfig c.origin = .ok f ∧ f.Redirected net r ∧
        ((f.forward net r).2.sent.map (·.url.text)).take 2 =
          ["http://origin.example/x", "http://other.example/"] ∧
        ¬((f.forward net r).2.sent.length ≤ 1 ∧
          ∀ s ∈ (f.forward net r).2.sent, s.url.sameOrigin f.target.origin = true) := by
  intro c net r
  have hc : c.validate = .ok c := by decide +kernel
  let f : Forwarder := ⟨⟨⟨"http", some { host := .domain "origin.example" }, .segments [""], none, none⟩,
    c.origin.mountPrefixes⟩, {}, false⟩
  have hf : ofConfig c.origin = .ok f := by decide +kernel
  have hiff := (forward_single_iff hc rfl hf net r).1
  have hlength : ¬(f.forward net r).2.sent.length ≤ 1 := by decide +kernel
  have hredirected : f.Redirected net r := by
    by_contra hnot
    exact hlength (hiff.2 hnot).1
  refine ⟨hc, rfl, f, hf, hredirected, by decide +kernel, ?_⟩
  exact fun h => hlength h.1

end Relay.Forwarder
