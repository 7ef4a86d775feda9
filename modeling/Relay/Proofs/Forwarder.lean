import Relay.Forwarder
import Relay.Proofs.Text

/-!
The parts of forwarding a request: what a forwarder is made of, what it prepares, and what it sends.
-/

namespace Relay.Forwarder

theorem forward_sent (f : Forwarder) (net : Network) (r : Inbound) :
    (f.forward net r).2.sent =
      match f.prepare r with
      | .ok out => (f.client.exchange net out).1
      | .error _ => [] := by
  have hattempt : (f.forward net r).2.sent = (f.attempt net r).1 := rfl
  rw [hattempt, attempt]
  cases f.prepare r with
  | error e => rfl
  | ok out =>
    dsimp only
    split <;> rename_i heq <;> rw [heq]

theorem ofConfig_ok {c : OriginConfig} {f : Forwarder} (h : ofConfig c = .ok f) :
    Target.ofText c.origin c.mountPrefixes = .ok f.target ∧
      f.client = ⟨c.userAgent, c.useSystemProxy⟩ ∧ f.mergeHeaders = c.mergeHeaders := by
  unfold ofConfig at h
  obtain ⟨t, ht, h⟩ := bind_eq_ok.1 h
  have htarget : Target.ofText c.origin c.mountPrefixes = .ok t := by
    cases hparsed : Target.ofText c.origin c.mountPrefixes with
    | error e =>
      rw [hparsed] at ht
      cases ht
    | ok t' =>
      rw [hparsed] at ht
      exact congrArg Except.ok (Except.ok.inj ht)
  dsimp only at h
  split at h
  · obtain ⟨u, hthrow, -⟩ := bind_eq_ok.1 h
    cases hthrow
  · rw [← Except.ok.inj h]
    exact ⟨htarget, rfl, rfl⟩

theorem prepare_ok {f : Forwarder} {r : Inbound} {out : Outbound} (h : f.prepare r = .ok out) :
    f.target.resolve r.path r.query = .ok out.url ∧ Headers.select r = .ok out.headers ∧
      out.method = r.method ∧
      out.body = .normalize r.body r.isBase64Encoded (r.header? "content-type") := by
  unfold prepare at h
  obtain ⟨url, hurl, h⟩ := bind_eq_ok.1 h
  obtain ⟨headers, hheaders, h⟩ := bind_eq_ok.1 h
  rw [← Except.ok.inj h]
  exact ⟨hurl, hheaders, rfl, rfl⟩

/-- A request is prepared exactly when its target can be resolved and its headers can be sent; the
body is never in the way. -/
theorem prepare_eq_ok_iff {f : Forwarder} {r : Inbound} {out : Outbound} :
    f.prepare r = .ok out ↔
      f.target.resolve r.path r.query = .ok out.url ∧ Headers.select r = .ok out.headers ∧
        out.method = r.method ∧
        out.body = .normalize r.body r.isBase64Encoded (r.header? "content-type") := by
  refine ⟨prepare_ok, ?_⟩
  rintro ⟨hurl, hheaders, hmethod, hbody⟩
  unfold prepare
  rw [hurl, hheaders, ← hmethod, ← hbody]
  rfl

end Relay.Forwarder
