import Mathlib.Data.List.Chain
import Mathlib.Tactic.ByContra
import Relay.Client

/-!
What the client does with one request. A step sends nothing, or sends one request and stops, or is
sent on to another URL; everything that holds along a chain of redirects follows from that.
-/

namespace Relay.Client

/-- A hop that can be sent, and whose server can be asked. -/
structure Reaches (net : Network) (hop : Hop) : Prop where
  scheme : hop.url.scheme = "http" ∨ hop.url.scheme = "https"
  isUri : isUri hop.url = true
  dial : net.dial hop.url = .connected

def Tunnels (client : Client) (hop : Hop) : Prop :=
  client.useSystemProxy = true ∧ hop.url.scheme = "https"

def Redirects (net : Network) (index : Nat) (hop : Hop) (status : UInt16) (url : Url) : Prop :=
  ∃ headers body, net.reply index = .answer status headers body ∧
    redirectTarget? hop status headers = some url

section

variable (client : Client) {net : Network} (left index : Nat) {hop : Hop}

theorem follow_unreached (h : ¬Reaches net hop) : (follow client net left index hop).1 = [] := by
  unfold follow
  split
  · rfl
  rename_i hscheme
  have hweb : hop.url.scheme = "http" ∨ hop.url.scheme = "https" := by
    by_contra hneither
    exact hscheme (not_or.1 hneither)
  split
  · rfl
  rename_i huri
  cases hdial : net.dial hop.url with
  | connected => exact absurd ⟨hweb, by simpa using huri, hdial⟩ h
  | refused => rfl
  | unreachable => rfl

theorem follow_tunnels (h : Reaches net hop) (htunnel : Tunnels client hop) :
    follow client net left index hop = ([sendConnect client hop], .failed none .tunnelRefused) := by
  unfold follow
  rw [if_neg (fun hneither => h.scheme.elim hneither.1 hneither.2), h.isUri, h.dial]
  simp [htunnel.1, htunnel.2]

theorem follow_reaches (h : Reaches net hop) (htunnel : ¬Tunnels client hop) :
    follow client net left index hop =
      match net.reply index with
      | .silent => ([send client hop], .waiting)
      | .unreadable fault => ([send client hop], .failed none (.head fault))
      | .answer status headers body =>
        match redirectTarget? hop status headers with
        | none =>
          match body with
          | .ok bytes => ([send client hop], .received ⟨status, headers, bytes⟩)
          | .error fault => ([send client hop], .failed (some status) (.body fault))
        | some url =>
          match left with
          | 0 => ([send client hop], .failed none .tooManyRedirects)
          | left + 1 =>
            (send client hop ::
              (follow client net left (index + 1) (nextHop net.headerCopy hop status url)).1,
              (follow client net left (index + 1) (nextHop net.headerCopy hop status url)).2) := by
  have hdirect : ¬(client.useSystemProxy && hop.url.scheme == "https") = true := by
    simpa [Tunnels] using htunnel
  conv => lhs; unfold follow
  rw [if_neg (fun hneither => h.scheme.elim hneither.1 hneither.2), h.isUri, h.dial]
  exact if_neg hdirect

/-- What one step can do. -/
theorem follow_cases (net : Network) (hop : Hop) :
    (¬Reaches net hop ∧ (follow client net left index hop).1 = []) ∨
    (Reaches net hop ∧ Tunnels client hop ∧
      (follow client net left index hop).1 = [sendConnect client hop]) ∨
    (Reaches net hop ∧ ¬Tunnels client hop ∧
      (left = 0 ∨ ¬∃ status url, Redirects net index hop status url) ∧
      (follow client net left index hop).1 = [send client hop]) ∨
    (Reaches net hop ∧ ¬Tunnels client hop ∧ ∃ status url left', left = left' + 1 ∧
      Redirects net index hop status url ∧
      follow client net left index hop =
        (send client hop ::
          (follow client net left' (index + 1) (nextHop net.headerCopy hop status url)).1,
          (follow client net left' (index + 1) (nextHop net.headerCopy hop status url)).2)) := by
  by_cases hreach : Reaches net hop
  · by_cases htunnel : Tunnels client hop
    · refine .inr (.inl ⟨hreach, htunnel, ?_⟩)
      rw [follow_tunnels client left index hreach htunnel]
    · refine .inr (.inr ?_)
      rw [follow_reaches client left index hreach htunnel]
      -- only an answer with a target can lead to another hop
      cases hreply : net.reply index with
      | silent => exact .inl ⟨hreach, htunnel, .inr (by simp [Redirects, hreply]), rfl⟩
      | unreadable fault => exact .inl ⟨hreach, htunnel, .inr (by simp [Redirects, hreply]), rfl⟩
      | answer status headers body =>
        dsimp only
        cases htarget : redirectTarget? hop status headers with
        | none =>
          refine .inl ⟨hreach, htunnel, .inr ?_, ?_⟩
          · rintro ⟨st, url, hs, b, heq, hsome⟩
            obtain ⟨rfl, rfl, rfl⟩ := Reply.answer.inj (hreply.symm.trans heq)
            simp [htarget] at hsome
          · cases body <;> rfl
        | some url =>
          cases left with
          | zero => exact .inl ⟨hreach, htunnel, .inl rfl, rfl⟩
          | succ left =>
            exact .inr ⟨hreach, htunnel, status, url, left, rfl, ⟨headers, body, hreply, htarget⟩, rfl⟩
  · exact .inl ⟨hreach, follow_unreached client left index hreach⟩

theorem follow_eq_nil_iff (net : Network) (hop : Hop) :
    (follow client net left index hop).1 = [] ↔ ¬Reaches net hop := by
  rcases follow_cases client left index net hop with ⟨hreach, h⟩ | ⟨hreach, -, h⟩ | ⟨hreach, -, -, h⟩ |
    ⟨hreach, -, status, url, left', -, -, h⟩
  · exact iff_of_true h hreach
  · exact iff_of_false (by simp [h]) (not_not_intro hreach)
  · exact iff_of_false (by simp [h]) (not_not_intro hreach)
  · exact iff_of_false (by simp [h]) (not_not_intro hreach)

theorem Redirects.unique {index : Nat} {status status' : UInt16} {url url' : Url}
    (h : Redirects net index hop status url) (h' : Redirects net index hop status' url') :
    status = status' ∧ url = url' := by
  obtain ⟨headers, body, hreply, htarget⟩ := h
  obtain ⟨headers', body', hreply', htarget'⟩ := h'
  obtain ⟨rfl, rfl, rfl⟩ := Reply.answer.inj (hreply.symm.trans hreply')
  exact ⟨rfl, Option.some.inj (htarget.symm.trans htarget')⟩

theorem Redirects.isUri {index : Nat} {status : UInt16} {url : Url}
    (h : Redirects net index hop status url) : isUri url = true := by
  obtain ⟨headers, body, -, htarget⟩ := h
  unfold redirectTarget? at htarget
  split at htarget
  · cases htarget
  · obtain ⟨location, -, htarget⟩ := Option.bind_eq_some_iff.1 htarget
    obtain ⟨text, -, htarget⟩ := Option.bind_eq_some_iff.1 htarget
    exact (Option.filter_eq_some_iff.1 htarget).2

/-! ### Along a chain of redirects -/

theorem length_follow (net : Network) (hop : Hop) :
    (follow client net left index hop).1.length ≤ left + 1 := by
  -- by induction on the redirects that are left: each hop to another URL uses one up
  induction left using Nat.strongRecOn generalizing index hop with
  | ind left ih =>
    rcases follow_cases client left index net hop with ⟨-, h⟩ | ⟨-, -, h⟩ | ⟨-, -, -, h⟩ |
      ⟨-, -, status, url, left', rfl, -, h⟩
    · simp [h]
    · simp [h]
    · simp [h]
    · rw [h, List.length_cons]
      exact Nat.succ_le_succ (ih left' (by omega) (index + 1) _)

/-- What every hop of a chain satisfies, the requests of the chain show. -/
theorem forall_mem_follow (net : Network) {I : Hop → Prop} {P : Sent → Prop}
    (hsend : ∀ hop, I hop → P (send client hop))
    (hconnect : ∀ hop, I hop → P (sendConnect client hop))
    (hnext : ∀ hop status url, I hop → I (nextHop net.headerCopy hop status url))
    (hop : Hop) (hinv : I hop) :
    ∀ s ∈ (follow client net left index hop).1, P s := by
  -- the invariant goes along with the chain: `hnext` hands it to the next hop
  induction left using Nat.strongRecOn generalizing index hop with
  | ind left ih =>
    rcases follow_cases client left index net hop with ⟨-, h⟩ | ⟨-, -, h⟩ | ⟨-, -, -, h⟩ |
      ⟨-, -, status, url, left', rfl, -, h⟩
    · simp [h]
    · simpa [h] using hconnect hop hinv
    · simpa [h] using hsend hop hinv
    · rw [h]
      intro s hs
      rcases List.mem_cons.1 hs with rfl | hs
      · exact hsend hop hinv
      · exact ih left' (by omega) (index + 1) _ (hnext hop status url hinv) s hs

theorem head?_follow {s : Sent} (hs : s ∈ (follow client net left index hop).1.head?) :
    (¬Tunnels client hop ∧ s = send client hop) ∨ (Tunnels client hop ∧ s = sendConnect client hop) := by
  rcases follow_cases client left index net hop with ⟨-, h⟩ | ⟨-, htunnel, h⟩ | ⟨-, hdirect, -, h⟩ |
    ⟨-, hdirect, status, url, left', -, -, h⟩
  · simp [h] at hs
  · exact .inr ⟨htunnel, by simpa [h, eq_comm] using hs⟩
  · exact .inl ⟨hdirect, by simpa [h, eq_comm] using hs⟩
  · exact .inl ⟨hdirect, by simpa [h, eq_comm] using hs⟩

/-- What holds between every hop and the next one, the requests next to each other show. -/
theorem isChain_follow (net : Network) {I : Hop → Prop} {R : Sent → Sent → Prop}
    (hsend : ∀ hop status url, I hop → ¬Tunnels client (nextHop net.headerCopy hop status url) →
      R (send client hop) (send client (nextHop net.headerCopy hop status url)))
    (hconnect : ∀ hop status url, I hop → Tunnels client (nextHop net.headerCopy hop status url) →
      R (send client hop) (sendConnect client (nextHop net.headerCopy hop status url)))
    (hnext : ∀ hop status url, I hop → I (nextHop net.headerCopy hop status url))
    (hop : Hop) (hinv : I hop) : (follow client net left index hop).1.IsChain R := by
  induction left using Nat.strongRecOn generalizing index hop with
  | ind left ih =>
    rcases follow_cases client left index net hop with ⟨-, h⟩ | ⟨-, -, h⟩ | ⟨-, -, -, h⟩ |
      ⟨-, -, status, url, left', rfl, -, h⟩
    · rw [h]
      exact List.isChain_nil
    · rw [h]
      exact List.isChain_singleton _
    · rw [h]
      exact List.isChain_singleton _
    · rw [h]
      refine List.isChain_cons.2 ⟨fun s hs => ?_, ih left' (by omega) (index + 1) _ (hnext hop status url hinv)⟩
      rcases head?_follow client left' (index + 1) hs with ⟨hdirect, rfl⟩ | ⟨htunnel, rfl⟩
      · exact hsend hop status url hinv hdirect
      · exact hconnect hop status url hinv htunnel

/-! ### How an exchange ends -/

/-- What may have been sent and how that may end, by the replies of a network; `index` counts the
requests sent before. -/
inductive Accounted (net : Network) (index : Nat) : List Sent × Outcome → Prop
  | received {i : Nat} {status : UInt16} {headers : Http.Headers} {bytes : Bytes}
    (h : net.reply i = .answer status headers (.ok bytes)) (sent : List Sent) :
    Accounted net index (sent, .received ⟨status, headers, bytes⟩)
  | cutShort {i : Nat} {status : UInt16} {headers : Http.Headers} {fault : BodyFault}
    (h : net.reply i = .answer status headers (.error fault)) (sent : List Sent) :
    Accounted net index (sent, .failed (some status) (.body fault))
  | failed (failure : Failure) (sent : List Sent) : Accounted net index (sent, .failed none failure)
  /-- It is the reply to the last request that is awaited. -/
  | waiting {i : Nat} {sent : List Sent} (hlast : sent.length = i + 1)
    (h : net.reply (index + i) = .silent) : Accounted net index (sent, .waiting)

theorem Accounted.cons {index : Nat} {sent : List Sent} {outcome : Outcome}
    (h : Accounted net (index + 1) (sent, outcome)) (first : Sent) :
    Accounted net index (first :: sent, outcome) := by
  cases h with
  | received h => exact .received h _
  | cutShort h => exact .cutShort h _
  | failed failure => exact .failed failure _
  | @waiting i _ hlast h =>
    refine .waiting (i := i + 1) ?_ ?_
    · rw [List.length_cons, hlast]
    · rw [show index + (i + 1) = index + 1 + i by omega]
      exact h

theorem follow_accounted (net : Network) (hop : Hop) :
    Accounted net index (follow client net left index hop) := by
  -- along the redirects: each hop ends by itself or as the next one does
  fun_induction follow client net left index hop with
  | case1 => exact .failed _ _
  | case2 => exact .failed _ _
  | case3 => exact .failed _ _
  | case4 => exact .waiting (i := 0) rfl ‹_›
  | case5 => exact .failed _ _
  | case6 => exact .received ‹_› _
  | case7 => exact .cutShort ‹_› _
  | case8 => exact .failed _ _
  | case9 =>
    rename_i hnext ih
    rw [hnext] at ih
    exact ih.cons _
  | case10 => exact .failed _ _

end

end Relay.Client
