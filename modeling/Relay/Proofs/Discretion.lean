import Relay.Proofs.Exchange
import Relay.Proofs.Forwarder
import Relay.Proofs.HeaderFlow
import Relay.Proofs.Target

/-!
What the record of a request gives away. Two requests that look alike from outside, and whose URLs can
be sent alike, leave the same log and the same counters, whatever the values of their headers and queries
and their bodies are. That a URL is too long to be sent shows, and nothing else of it. A request that is
refused shows its path and the name of a header.
-/

namespace Relay

/-! ### URLs up to their queries -/

namespace Url

def AgreesButQuery (u v : Url) : Prop := ∃ query, v = { u with query }

theorem setQuery_agreesButQuery (u : Url) {query query' : Option String}
    (h : query.isNone = query'.isNone) : (u.setQuery query).AgreesButQuery (u.setQuery query') := by
  refine ⟨(u.setQuery query').query, ?_⟩
  -- only whether there is a query shows in the path
  unfold setQuery
  simp only [Option.isNone_map, h]

/-- What is resolved against a URL with another query and fragment: always the same, or the URL itself
with its query and a new fragment. -/
def Resolves (u : Url) (resolve : Option String → Option String → Except ParseError Url) : Prop :=
  (∀ query fragment, resolve query fragment = resolve u.query u.fragment) ∨
    ∃ f, ∀ query fragment, resolve query fragment = .ok { u with query, fragment := f }

theorem joinRelative_resolves (u : Url) (cs : List Char) :
    u.Resolves fun query fragment => joinRelative { u with query, fragment } cs := by
  have hbelow : ∀ kind cs,
      u.Resolves fun query fragment => joinRelative.below { u with query, fragment } kind cs := by
    intro kind cs
    unfold joinRelative.below
    dsimp only
    by_cases hpath : (cut cs).1.isEmpty = true
    · simp only [if_pos hpath]
      cases (cut cs).2.1 with
      | some q => exact .inl fun _ _ => rfl
      | none => exact .inr ⟨_, fun _ _ => rfl⟩
    · simp only [if_neg hpath]
      exact .inl fun _ _ => rfl
  -- a reference with an authority or a path of its own does not look at the rest of the base
  match cs with
  | [] => exact .inr ⟨none, fun _ _ => rfl⟩
  | [a] =>
    unfold joinRelative
    dsimp only
    split
    · exact .inl fun _ _ => rfl
    · exact hbelow _ _
  | a :: b :: rest =>
    unfold joinRelative
    dsimp only
    split
    · exact .inl fun _ _ => rfl
    · split
      · exact .inl fun _ _ => rfl
      · exact hbelow _ _

theorem join_resolves (u : Url) (reference : String) :
    u.Resolves fun query fragment => join { u with query, fragment } reference := by
  unfold join
  dsimp only
  cases splitScheme? (clean reference.toList) with
  | some p =>
    by_cases hrelative : schemeKind p.1 = .web ∧ p.1 = u.scheme ∧
        (p.2.takeWhile fun c => c == '/' || c == '\\').length < 2
    · simp only [if_pos hrelative]
      exact joinRelative_resolves u _
    · simp only [if_neg hrelative]
      exact .inl fun _ _ => rfl
  | none =>
    dsimp only
    split
    · exact joinRelative_resolves u _
    · exact .inl fun _ _ => rfl
    · exact joinRelative_resolves u _

theorem join_fragment (u : Url) (fragment : Option String) (reference : String) :
    join { u with fragment } reference = u.join reference := by
  rcases u.join_resolves reference with hsame | ⟨f, hkept⟩
  · exact hsame u.query fragment
  · exact (hkept u.query fragment).trans (hkept u.query u.fragment).symm

/-- Two URLs that differ in their queries alone are sent on to the same URL, or keep their queries. -/
theorem join_cases {u v : Url} (h : u.AgreesButQuery v) (reference : String) :
    u.join reference = v.join reference ∨
    ∃ fragment, u.join reference = .ok { u with fragment } ∧ v.join reference = .ok { v with fragment } := by
  obtain ⟨query, rfl⟩ := h
  rcases u.join_resolves reference with hsame | ⟨f, hkept⟩
  · exact .inl (hsame query u.fragment).symm
  · exact .inr ⟨f, hkept u.query u.fragment, hkept query u.fragment⟩

end Url

/-! ### Hops up to what they carry -/

namespace Client

def location? (status : UInt16) (headers : Http.Headers) : Option String :=
  if isRedirect status then (headers.get? "location").bind Utf8.decode? else none

theorem redirectTarget?_eq (hop : Hop) (status : UInt16) (headers : Http.Headers) :
    redirectTarget? hop status headers =
      (location? status headers).bind fun text => (hop.url.join text).toOption.filter isUri := by
  unfold redirectTarget? location?
  cases isRedirect status with
  | false => rfl
  | true =>
    cases headers.get? "location" with
    | none => rfl
    | some location => cases hdecode : Utf8.decode? location <;> simp [hdecode]

end Client

namespace Network

/-- Whether a server is reached does not depend on what is asked of it. -/
def IsAddressed (net : Network) : Prop :=
  ∀ u v : Url, u.scheme = v.scheme → u.authority = v.authority → net.dial u = net.dial v

def Refers (net : Network) (reference : String) : Prop :=
  ∃ i status headers body, net.reply i = .answer status headers body ∧
    Client.location? status headers = some reference

/-- Both URLs can stand in a request or neither can, and so can those to which a reply sends them on. -/
structure SendsAlike (net : Network) (u v : Url) : Prop where
  isUri : Client.isUri u = Client.isUri v
  referred : ∀ reference u' v', net.Refers reference → u.join reference = .ok u' →
    v.join reference = .ok v' → Client.isUri u' = Client.isUri v'

theorem SendsAlike.refl (net : Network) (u : Url) : net.SendsAlike u u := by
  refine ⟨rfl, ?_⟩
  intro reference u' v' _ hu hv
  rw [Except.ok.inj (hu.symm.trans hv)]

theorem SendsAlike.join {net : Network} {u v : Url} (h : net.SendsAlike u v) (huv : u.AgreesButQuery v)
    {reference : String} (hrefers : net.Refers reference) :
    (∃ e, u.join reference = .error e ∧ v.join reference = .error e) ∨
    ∃ u' v', u.join reference = .ok u' ∧ v.join reference = .ok v' ∧ u'.AgreesButQuery v' ∧
      net.SendsAlike u' v' := by
  rcases Url.join_cases huv reference with hsame | ⟨fragment, hu, hv⟩
  · cases hv : v.join reference with
    | error e => exact .inl ⟨e, hsame.trans hv, rfl⟩
    | ok w => exact .inr ⟨w, w, hsame.trans hv, rfl, ⟨w.query, rfl⟩, .refl net w⟩
  · -- the queries are kept, and the next reference does not look at the fragment
    obtain ⟨query, rfl⟩ := huv
    refine .inr ⟨_, _, hu, hv, ⟨query, rfl⟩, h.referred reference _ _ hrefers hu hv, ?_⟩
    intro next u' v' hnext hu' hv'
    rw [Url.join_fragment] at hu'
    exact h.referred next u' v' hnext hu' ((Url.join_fragment _ fragment next).symm.trans hv')

end Network

namespace Client

/-- Hops that differ in their queries, headers and bodies alone, and can be sent alike. -/
structure Hop.Alike (net : Network) (a b : Hop) : Prop where
  method : a.method = b.method
  url : a.url.AgreesButQuery b.url
  sends : net.SendsAlike a.url b.url

theorem redirectTarget?_alike {net : Network} {a b : Hop} (h : a.Alike net b) {index : Nat}
    {status : UInt16} {headers : Http.Headers} {body : Except BodyFault Bytes}
    (hreply : net.reply index = .answer status headers body) :
    (redirectTarget? a status headers = none ∧ redirectTarget? b status headers = none) ∨
    ∃ u v, redirectTarget? a status headers = some u ∧ redirectTarget? b status headers = some v ∧
      (nextHop net.headerCopy a status u).Alike net (nextHop net.headerCopy b status v) := by
  simp only [redirectTarget?_eq]
  cases hlocation : location? status headers with
  | none => exact .inl ⟨rfl, rfl⟩
  | some reference =>
    rcases h.sends.join h.url ⟨index, status, headers, body, hreply, hlocation⟩ with
      ⟨e, hu, hv⟩ | ⟨u, v, hu, hv, huv, hsends⟩
    · rw [Option.bind_some, Option.bind_some, hu, hv]
      exact .inl ⟨rfl, rfl⟩
    · rw [Option.bind_some, Option.bind_some, hu, hv]
      have hmethod : (nextHop net.headerCopy a status u).method =
          (nextHop net.headerCopy b status v).method := by
        show (if _ then _ else a.method) = if _ then _ else b.method
        rw [h.method]
      -- both are followed, or neither is
      simp only [Except.toOption, Option.filter_some, hsends.isUri]
      split
      · exact .inr ⟨u, v, rfl, rfl, hmethod, huv, hsends⟩
      · exact .inl ⟨rfl, rfl⟩

theorem follow_alike (client : Client) {net : Network} (hnet : net.IsAddressed) (left index : Nat)
    {a b : Hop} (h : a.Alike net b) :
    (follow client net left index a).2 = (follow client net left index b).2 := by
  -- by induction on the redirects that are left: hops that are alike are sent on alike
  induction left using Nat.strongRecOn generalizing index a b with
  | ind left ih =>
    obtain ⟨query, hurl⟩ := h.url
    have hscheme : a.url.scheme = b.url.scheme := by rw [hurl]
    have hdial : net.dial a.url = net.dial b.url := by
      apply hnet _ _ hscheme
      rw [hurl]
    unfold follow
    rw [hscheme, hdial, h.sends.isUri]
    split
    · rfl
    split
    · rfl
    dsimp only
    cases net.dial b.url with
    | refused => rfl
    | unreachable => rfl
    | connected =>
      dsimp only
      split
      · rfl
      cases hreply : net.reply index with
      | silent => rfl
      | unreadable fault => rfl
      | answer status headers body =>
        dsimp only
        rcases redirectTarget?_alike h hreply with ⟨ha, hb⟩ | ⟨u, v, ha, hb, hnext⟩
        · rw [ha, hb]
          cases body <;> rfl
        · rw [ha, hb]
          cases left with
          | zero => rfl
          | succ left => exact ih left (by omega) (index + 1) hnext

end Client

/-! ### Refused requests -/

namespace Headers

def isUnsendable (r : Inbound) (name : String) : Bool :=
  (r.header? name).any fun value => !Http.isHeaderValue (Utf8.encode value)

def unsendable? (r : Inbound) : Option String := forwarded.find? (isUnsendable r)

theorem isUnsendable_iff (r : Inbound) (name : String) : isUnsendable r name = true ↔ ¬Sendable r name := by
  unfold isUnsendable Sendable
  cases r.header? name with
  | none => simp
  | some value => simp [← isHeaderValue_iff]

theorem select_eq (r : Inbound) :
    select r =
      match unsendable? r with
      | some name => .error (.invalidHeaderValue name)
      | none => .ok (found r forwarded) := by
  rcases go_cases r forwarded with ⟨hall, hgo⟩ | ⟨front, name, back, hnames, hfront, hbad, hgo⟩
  · have hnone : unsendable? r = none := by
      refine List.find?_eq_none.2 ?_
      intro n hn hbad
      exact (isUnsendable_iff r n).1 hbad (hall n hn)
    rw [hnone]
    exact hgo
  · have hsome : unsendable? r = some name := by
      unfold unsendable?
      rw [hnames, List.find?_append, List.find?_eq_none.2, List.find?_cons_of_pos ((isUnsendable_iff r name).2 hbad)]
      · rfl
      · intro n hn hbad
        exact (isUnsendable_iff r n).1 hbad (hfront n hn)
    rw [hsome]
    exact hgo

end Headers

theorem Target.resolve_query (t : Target) (path : String) (query query' : TextMap) :
    (∃ e, t.resolve path query = .error e ∧ t.resolve path query' = .error e) ∨
    ∃ u : Url, t.resolve path query = .ok (u.setQuery (Query.serialize query)) ∧
      t.resolve path query' = .ok (u.setQuery (Query.serialize query')) := by
  unfold resolve
  dsimp only
  split
  · exact .inl ⟨_, rfl, rfl⟩
  · split
    · exact .inl ⟨_, rfl, rfl⟩
    · split
      · exact .inr ⟨_, rfl, rfl⟩
      · exact .inl ⟨_, rfl, rfl⟩

/-! ### Two requests -/

/-- What may be known of a request: its method, its path, and what there is in it. -/
structure Inbound.LooksLike (r r' : Inbound) : Prop where
  method : r.method = r'.method
  path : r.path = r'.path
  query : r.query.isEmpty = r'.query.isEmpty
  authorization : (r.header? "authorization").isSome = (r'.header? "authorization").isSome
  body : r.hasBody = r'.hasBody

def Record.visible (record : Record) : List LogEvent := record.logs.filter (·.level != .debug)

namespace Forwarder

def refusal? (f : Forwarder) (path : String) (unsendable : Option String) : Option Refusal :=
  match f.target.resolve path .empty with
  | .error e => some e
  | .ok _ => unsendable.map .invalidHeaderValue

theorem prepare_eq_error_iff (f : Forwarder) (r : Inbound) (e : Refusal) :
    f.prepare r = .error e ↔ f.refusal? r.path (Headers.unsendable? r) = some e := by
  unfold prepare refusal?
  rw [Headers.select_eq]
  -- the path is looked at first, and the query never decides
  rcases f.target.resolve_query r.path r.query .empty with ⟨cause, hr, hempty⟩ | ⟨u, hr, hempty⟩
  · rw [hr, hempty]
    exact ⟨fun h => congrArg some (Except.error.inj h), fun h => congrArg _ (Option.some.inj h)⟩
  · rw [hr, hempty]
    cases Headers.unsendable? r with
    | none => exact ⟨nofun, nofun⟩
    | some name => exact ⟨fun h => congrArg some (Except.error.inj h), fun h => congrArg _ (Option.some.inj h)⟩

theorem prepare_of_refusal? {f : Forwarder} {r : Inbound}
    (h : f.refusal? r.path (Headers.unsendable? r) = none) : ∃ out, f.prepare r = .ok out := by
  cases hout : f.prepare r with
  | ok out => exact ⟨out, rfl⟩
  | error e =>
    rw [(f.prepare_eq_error_iff r e).1 hout] at h
    cases h

section

variable {f : Forwarder} {r r' : Inbound}

theorem prepare_alike (h : r.LooksLike r') {net : Network} {out out' : Outbound}
    (hout : f.prepare r = .ok out) (hout' : f.prepare r' = .ok out')
    (hsends : net.SendsAlike (Client.firstHop out).url (Client.firstHop out').url) :
    (Client.firstHop out).Alike net (Client.firstHop out') := by
  obtain ⟨hurl, -, hmethod, -⟩ := prepare_ok hout
  obtain ⟨hurl', -, hmethod', -⟩ := prepare_ok hout'
  have hnone : (Query.serialize r.query).isNone = (Query.serialize r'.query).isNone := by
    unfold Query.serialize
    rw [h.query]
    split <;> rfl
  refine ⟨?_, ?_, hsends⟩
  · show out.method.name = out'.method.name
    rw [hmethod, hmethod', h.method]
  · have hagrees : out.url.AgreesButQuery out'.url := by
      rw [← h.path] at hurl'
      rcases f.target.resolve_query r.path r.query r'.query with ⟨e, hr, -⟩ | ⟨u, hr, hr'⟩
      · exact absurd (hr.symm.trans hurl) (by simp)
      · rw [← Except.ok.inj (hr.symm.trans hurl), ← Except.ok.inj (hr'.symm.trans hurl')]
        exact Url.setQuery_agreesButQuery u hnone
    obtain ⟨query, hquery⟩ := hagrees
    exact ⟨query, by unfold Client.firstHop Client.withoutCredentials; rw [hquery]⟩

theorem attempt_alike (h : r.LooksLike r') {net : Network} (hnet : net.IsAddressed) {out out' : Outbound}
    (hout : f.prepare r = .ok out) (hout' : f.prepare r' = .ok out')
    (hsends : net.SendsAlike (Client.firstHop out).url (Client.firstHop out').url) :
    (f.attempt net r).2 = (f.attempt net r').2 := by
  have houtcome : (f.client.exchange net out).2 = (f.client.exchange net out').2 :=
    Client.follow_alike f.client hnet _ _ (prepare_alike h hout hout' hsends)
  unfold attempt
  rw [hout, hout']
  dsimp only
  rcases hx : f.client.exchange net out with ⟨sent, outcome⟩
  rcases hx' : f.client.exchange net out' with ⟨sent', outcome'⟩
  rw [hx, hx'] at houtcome
  obtain rfl : outcome = outcome' := houtcome
  cases outcome <;> rfl

theorem bodyLog_level (f : Forwarder) (r : Inbound) : ∀ e ∈ f.bodyLog r, e.level = .debug := by
  intro e he
  unfold bodyLog at he
  split at he
  · unfold Outbound.Body.normalizeLog at he
    split at he
    · simp at he
    split at he
    · simp at he
    -- something is said about JSON that cannot be parsed, and about Base64 that cannot be decoded
    split at he
    · split at he
      · simp at he
      · rw [List.mem_singleton.1 he]
    · split at he
      · split at he
        · simp at he
        · rw [List.mem_singleton.1 he]
      · simp at he
  · simp at he

theorem startEvent_alike (h : r.LooksLike r') : f.startEvent r = f.startEvent r' := by
  unfold startEvent
  rw [h.method, h.path, h.query, h.authorization, h.body]

theorem finish_alike (h : r.LooksLike r') (result : Result) :
    (f.finish r result).2 = (f.finish r' result).2 := by
  unfold finish successRecord failureRecord
  rw [h.method, h.path]

end

def ending (f : Forwarder) (net : Network) (r : Inbound) : Stop → Result
  | .never => (f.attempt net r).2
  | .atOnce fault => .fault fault
  | .whileWaiting fault =>
    match (f.attempt net r).2 with
    | .waiting => .fault fault
    | result => result

theorem forwardUntil_record (f : Forwarder) (net : Network) (r : Inbound) (stop : Stop) :
    ∃ debugging : List LogEvent, (∀ e ∈ debugging, e.level = .debug) ∧
      (f.forwardUntil net r stop).2.logs =
        f.startEvent r :: debugging ++ (f.finish r (f.ending net r stop)).2.logs ∧
      (f.forwardUntil net r stop).2.samples = (f.finish r (f.ending net r stop)).2.samples := by
  rcases hattempt : f.attempt net r with ⟨sent, result⟩
  unfold forwardUntil ending
  rw [hattempt]
  cases stop with
  | atOnce fault => exact ⟨[], by simp, rfl, rfl⟩
  | never => cases result <;> exact ⟨f.bodyLog r, bodyLog_level f r, rfl, rfl⟩
  | whileWaiting fault => cases result <;> exact ⟨f.bodyLog r, bodyLog_level f r, rfl, rfl⟩

theorem forwardUntil_visible (f : Forwarder) (net : Network) (r : Inbound) (stop : Stop) :
    (f.forwardUntil net r stop).2.visible =
      f.startEvent r :: (f.finish r (f.ending net r stop)).2.visible := by
  obtain ⟨debugging, hdebugging, hlogs, -⟩ := f.forwardUntil_record net r stop
  have hnone : debugging.filter (·.level != .debug) = [] := by
    apply List.filter_eq_nil_iff.2
    intro e he
    simp [hdebugging e he]
  unfold Record.visible
  rw [hlogs, List.filter_append, List.filter_cons_of_pos (by rfl), hnone]
  rfl

theorem forwardUntil_alike {f : Forwarder} {r r' : Inbound} (h : r.LooksLike r') {net : Network}
    (hnet : net.IsAddressed) {out out' : Outbound} (hout : f.prepare r = .ok out)
    (hout' : f.prepare r' = .ok out')
    (hsends : net.SendsAlike (Client.firstHop out).url (Client.firstHop out').url) (stop : Stop) :
    (f.forwardUntil net r stop).2.visible = (f.forwardUntil net r' stop).2.visible ∧
      (f.forwardUntil net r stop).2.samples = (f.forwardUntil net r' stop).2.samples := by
  obtain ⟨-, -, -, hsamples⟩ := f.forwardUntil_record net r stop
  obtain ⟨-, -, -, hsamples'⟩ := f.forwardUntil_record net r' stop
  have hending : f.ending net r stop = f.ending net r' stop := by
    unfold ending
    rw [attempt_alike h hnet hout hout' hsends]
  rw [forwardUntil_visible, forwardUntil_visible, hsamples, hsamples', hending, startEvent_alike h,
    finish_alike h]
  exact ⟨rfl, rfl⟩

end Forwarder

namespace Forwarder

end Forwarder

end Relay
