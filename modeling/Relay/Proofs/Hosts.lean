import Relay.Proofs.Handling
import Relay.Proofs.Record

/-!
The two hosts are one function. A request of an HTTP client and the event that is made of it lead to the
same requests to the origin server and to the same answer, and the response to the client has the
status, the headers and the bytes of that answer.
-/

namespace Relay

/-! ### Requests as events -/

namespace Http.Request

theorem checkHeader_eq_ok_iff {f x : String × Bytes} :
    checkHeader f = .ok x ↔
      isHeaderName f.1 = true ∧ isHeaderValue f.2 = true ∧ x = (Ascii.lower f.1, f.2) := by
  unfold checkHeader
  cases isHeaderName f.1 with
  | false => simp
  | true => cases isHeaderValue f.2 <;> simp [eq_comm]

theorem mapM_checkHeader_eq_ok_iff {fields : List (String × Bytes)} {headers : Http.Headers} :
    fields.mapM checkHeader = .ok headers ↔
      (∀ f ∈ fields, isHeaderName f.1 = true ∧ isHeaderValue f.2 = true) ∧
        headers = fields.map fun f => (Ascii.lower f.1, f.2) := by
  rw [mapM_eq_ok_iff]
  induction fields generalizing headers with
  | nil => cases headers <;> simp
  | cons f fields ih =>
    cases headers with
    | nil => simp
    | cons x headers =>
      rw [List.map_cons, List.map_cons, List.map_cons, List.cons.injEq, List.cons.injEq,
        List.forall_mem_cons, ih, checkHeader_eq_ok_iff]
      constructor
      · rintro ⟨⟨hname, hvalue, hx⟩, hfields, hheaders⟩
        exact ⟨⟨⟨hname, hvalue⟩, hfields⟩, hx, hheaders⟩
      · rintro ⟨⟨⟨hname, hvalue⟩, hfields⟩, hx, hheaders⟩
        exact ⟨⟨hname, hvalue, hx⟩, hfields, hheaders⟩

theorem mapM_checkHeader_lower {fields : List (String × Bytes)} {headers : Headers}
    (h : fields.mapM checkHeader = .ok headers) : ∀ x ∈ headers, Ascii.lower x.1 = x.1 := by
  obtain ⟨-, rfl⟩ := mapM_checkHeader_eq_ok_iff.1 h
  intro x hx
  obtain ⟨f, -, rfl⟩ := List.mem_map.1 hx
  exact Ascii.lower_lower f.1

theorem build_lower {method uri : String} {headers : List (String × Bytes)} {body : BodyArrival}
    {r : Request} (h : build method uri headers body = .ok r) :
    ∀ x ∈ r.headers, Ascii.lower x.1 = x.1 := by
  unfold build at h
  split at h
  · cases h
  · obtain ⟨u, -, h⟩ := bind_eq_ok.1 h
    obtain ⟨checked, hheaders, h⟩ := bind_eq_ok.1 h
    obtain rfl := Except.ok.inj h
    exact mapM_checkHeader_lower hheaders

theorem toInbound_headers {r : Request} {body : Bytes} {max : UInt64} {i : Inbound}
    (h : r.toInbound body max = .ok i) : i.headers = textHeaders r.headers := by
  have hm := (toInbound_ok h).1
  rw [toInbound_eq hm] at h
  split at h
  · cases h
  · rw [← Except.ok.inj h]

end Http.Request

theorem Event.toInbound_ofInbound {i : Inbound} (h : ∀ e ∈ i.headers.entries, Ascii.lower e.1 = e.1) :
    (ofInbound i).toInbound = .ok i := by
  have hkeep : i.headers.entries.map (fun e => (Ascii.lower e.1, e.2)) = i.headers.entries := by
    conv => rhs; rw [← List.map_id i.headers.entries]
    apply List.map_congr_left
    intro e he
    rw [h e he]
    rfl
  unfold toInbound ofInbound
  dsimp only [Option.getD_some]
  rw [Method.ofName?_name, hkeep, TextMap.ofList_entries]

theorem Event.ofJsonText_ofInbound {r : Http.Request} (hnames : ∀ x ∈ r.headers, Ascii.lower x.1 = x.1)
    {body : Bytes} {max : UInt64} {i : Inbound} (hin : r.toInbound body max = .ok i) :
    ofJsonText (ofInbound i).toJson.compact = .ok (ofInbound i) ∧ (ofInbound i).toInbound = .ok i := by
  refine ⟨ofJsonText_compact _, toInbound_ofInbound ?_⟩
  intro e he
  rw [Http.Request.toInbound_headers hin] at he
  obtain ⟨x, hx, htext⟩ := List.mem_filterMap.1 (TextMap.mem_ofList he)
  obtain ⟨text, -, rfl⟩ := Option.map_eq_some_iff.1 htext
  exact hnames x hx

/-! ### Replies that come late -/

namespace Client

variable (client : Client) (net : Network) (isHeld : Nat → Bool)

theorem follow_sends {net : Network} {hop : Hop} (hreach : Reaches net hop) (htunnel : ¬Tunnels client hop)
    (left index : Nat) : ∃ more, (follow client net left index hop).1 = send client hop :: more := by
  rcases follow_cases client left index net hop with ⟨hnot, -⟩ | ⟨-, ht, -⟩ | ⟨-, -, -, h⟩ |
    ⟨-, -, status, url, left', -, -, h⟩
  · exact absurd hreach hnot
  · exact absurd ht htunnel
  · exact ⟨[], h⟩
  · exact ⟨_, congrArg Prod.fst h⟩

/-- Whether a server is reached does not depend on its replies. -/
theorem follow_held_of_unreached {net : Network} {hop : Hop} (h : ¬Reaches net hop) (left index : Nat) :
    follow client (net.held isHeld) left index hop = follow client net left index hop := by
  unfold follow
  by_cases hscheme : hop.url.scheme ≠ "http" ∧ hop.url.scheme ≠ "https"
  · rw [if_pos hscheme, if_pos hscheme]
  rw [if_neg hscheme, if_neg hscheme]
  by_cases huri : (!isUri hop.url) = true
  · rw [if_pos huri, if_pos huri]
  rw [if_neg huri, if_neg huri]
  have hdial : net.dial hop.url ≠ .connected := by
    intro hconnected
    refine h ⟨?_, by simpa using huri, hconnected⟩
    by_contra hneither
    exact hscheme (not_or.1 hneither)
  have hsame : (net.held isHeld).dial hop.url = net.dial hop.url := rfl
  rw [hsame]
  cases hd : net.dial hop.url with
  | connected => exact absurd hd hdial
  | refused => rfl
  | unreachable => rfl

/-- Holding replies back changes nothing, unless one of them is awaited. -/
theorem follow_held (left index : Nat) (hop : Hop) :
    follow client (net.held isHeld) left index hop = follow client net left index hop ∨
    (follow client (net.held isHeld) left index hop).2 = .waiting ∧
      (follow client (net.held isHeld) left index hop).1 <+: (follow client net left index hop).1 := by
  -- along the redirects: up to the first reply that is held back, both go the same way
  induction left using Nat.strongRecOn generalizing index hop with
  | ind left ih =>
    by_cases hreach : Reaches net hop
    · have hreach' : Reaches (net.held isHeld) hop := ⟨hreach.scheme, hreach.isUri, hreach.dial⟩
      by_cases htunnel : Tunnels client hop
      · rw [follow_tunnels client left index hreach htunnel, follow_tunnels client left index hreach' htunnel]
        exact .inl rfl
      · by_cases hheld : isHeld index = true
        · have hsilent : (net.held isHeld).reply index = .silent := if_pos hheld
          obtain ⟨more, hmore⟩ := follow_sends client hreach htunnel left index
          rw [follow_reaches client left index hreach' htunnel, hsilent, hmore]
          exact .inr ⟨rfl, List.cons_prefix_cons.2 ⟨rfl, List.nil_prefix⟩⟩
        · have hsame : (net.held isHeld).reply index = net.reply index := if_neg hheld
          rw [follow_reaches client left index hreach htunnel,
            follow_reaches client left index hreach' htunnel, hsame]
          cases net.reply index with
          | silent => exact .inl rfl
          | unreadable fault => exact .inl rfl
          | answer status headers body =>
            dsimp only
            cases redirectTarget? hop status headers with
            | none => exact .inl rfl
            | some url =>
              cases left with
              | zero => exact .inl rfl
              | succ left =>
                rcases ih left (Nat.lt_succ_self left) (index + 1) (nextHop net.headerCopy hop status url) with
                  heq | ⟨hwaits, hsent⟩
                · have hcopy : (net.held isHeld).headerCopy = net.headerCopy := rfl
                  refine .inl ?_
                  dsimp only
                  rw [hcopy, heq]
                · exact .inr ⟨hwaits, List.cons_prefix_cons.2 ⟨rfl, hsent⟩⟩
    · exact .inl (follow_held_of_unreached client isHeld hreach left index)

end Client

theorem Forwarder.forward_held (f : Forwarder) (net : Network) (isHeld : Nat → Bool) (r : Inbound) :
    f.forward (net.held isHeld) r = f.forward net r ∨
    (f.forward (net.held isHeld) r).1 = none ∧
      (f.forward (net.held isHeld) r).2.sent <+: (f.forward net r).2.sent := by
  cases hprepare : f.prepare r with
  | error reason =>
    have hattempt : ∀ net, f.attempt net r = ([], .fault (.refused reason)) := by
      intro net
      rw [attempt, hprepare]
    refine .inl ?_
    unfold forward forwardUntil
    rw [hattempt, hattempt]
  | ok out =>
    rcases f.client.follow_held net isHeld Client.maxRedirects 0 (Client.firstHop out) with
      heq | ⟨hwaits, hsent⟩
    · have hattempt : f.attempt (net.held isHeld) r = f.attempt net r := by
        rw [attempt, attempt, hprepare]
        dsimp only
        rw [Client.exchange, heq]
        rfl
      refine .inl ?_
      unfold forward forwardUntil
      rw [hattempt]
    · -- a reply is held back: there is no answer yet, and what was sent is a beginning
      refine .inr ⟨?_, ?_⟩
      · have hattempt : (f.attempt (net.held isHeld) r).2 = .waiting := by
          rw [attempt, hprepare]
          dsimp only
          unfold Client.exchange
          generalize Client.follow f.client (net.held isHeld) _ 0 _ = held at hwaits
          obtain ⟨sent, outcome⟩ := held
          obtain rfl : outcome = .waiting := hwaits
          rfl
        unfold forward forwardUntil
        dsimp only
        rw [hattempt]
        rfl
      · rw [forward_sent, forward_sent, hprepare]
        exact hsent

theorem Network.held_nothing (net : Network) {isHeld : Nat → Bool} (h : ∀ i, isHeld i = false) :
    net.held isHeld = net := by
  unfold held
  cases net
  congr
  funext i
  rw [h i]
  rfl

/-! ### A handler that is not interrupted -/

def Moment.IsCalm (m : Moment) : Prop := m.deadlinePassed = false ∧ m.isStopping = false

namespace Handler

theorem interruption?_calm (h : Handler) {m : Moment} (hm : m.IsCalm) : h.interruption? m = none := by
  unfold interruption?
  rw [hm.1, hm.2]
  rfl

/-- How far a handler has come with a request: nothing has been sent, or all that some replies lead
to. -/
inductive Tracks (h : Handler) (i : Inbound) : Prop
  | idle (hphase : h.phase = .fresh ∨ h.phase = .reading ∨ h.phase = .crashed)
    (hsent : h.record.sent = [])
  | begun (isHeld : Nat → Bool) (hphase : (∃ held, h.phase = .forwarding i held) ∨ ∃ a, h.phase = .answered a)
    (hanswer : h.answer? = (h.settings.forwarder.forward (h.network.held isHeld) i).1)
    (hsent : h.record.sent = (h.settings.forwarder.forward (h.network.held isHeld) i).2.sent)

theorem forwardUntil_never (h : Handler) (i : Inbound) (isHeld : Nat → Bool) :
    (h.forwardUntil i isHeld .never).answer? = (h.settings.forwarder.forward (h.network.held isHeld) i).1 ∧
    (h.forwardUntil i isHeld .never).record.sent =
      (h.settings.forwarder.forward (h.network.held isHeld) i).2.sent ∧
    ((∃ held, (h.forwardUntil i isHeld .never).phase = .forwarding i held) ∨
      ∃ a, (h.forwardUntil i isHeld .never).phase = .answered a) := by
  unfold forwardUntil answer? Forwarder.forward
  dsimp only
  cases (h.settings.forwarder.forwardUntil (h.network.held isHeld) i .never).1 with
  | none => exact ⟨rfl, rfl, .inl ⟨isHeld, rfl⟩⟩
  | some a => exact ⟨rfl, rfl, .inr ⟨a, rfl⟩⟩

variable {h : Handler} {bytes : Bytes} {i : Inbound} {m : Moment}

theorem read_calm (hbody : h.request.body = .complete bytes)
    (hin : h.request.toInbound bytes h.settings.maxBodyBytes = .ok i) (hm : m.IsCalm) :
    h.read m = if m.bodyCame then h.forwardUntil i m.isHeld .never else { h with phase := .reading } := by
  unfold read
  rw [hbody]
  by_cases hcame : m.bodyCame = true
  · rw [hcame]
    dsimp only
    rw [hin]
    dsimp only
    unfold forward
    rw [interruption?_calm h hm]
    rfl
  · rw [Bool.not_eq_true] at hcame
    rw [hcame]
    dsimp only
    rw [hm.1]
    rfl

theorem method?_of_toInbound (hin : h.request.toInbound bytes h.settings.maxBodyBytes = .ok i) :
    h.request.method? = .ok i.method := by
  unfold Http.Request.method?
  rw [(Http.Request.toInbound_ok hin).1]

theorem poll_calm (hbody : h.request.body = .complete bytes)
    (hin : h.request.toInbound bytes h.settings.maxBodyBytes = .ok i) (ht : h.Tracks i) (hm : m.IsCalm) :
    (h.poll m = h ∧ (h.phase = .crashed ∨ ∃ a, h.phase = .answered a)) ∨
    ((h.poll m).phase = .crashed ∧ (h.poll m).record.sent = []) ∨
    (m.bodyCame = false ∧ (h.poll m).phase = .reading ∧ (h.poll m).record.sent = []) ∨
    ∃ h' : Handler, h'.settings = h.settings ∧ h'.network = h.network ∧
      h.poll m = h'.forwardUntil i m.isHeld .never := by
  -- the body is looked at in the same way when the handler starts and later
  have hread : ∀ h' : Handler, h'.settings = h.settings → h'.network = h.network → h'.request = h.request →
      h'.record.sent = [] → (m.bodyCame = false ∧ (h'.read m).phase = .reading ∧ (h'.read m).record.sent = []) ∨
      ∃ h'' : Handler, h''.settings = h.settings ∧ h''.network = h.network ∧
        h'.read m = h''.forwardUntil i m.isHeld .never := by
    intro h' hsettings hnetwork hrequest hsent
    rw [← hrequest] at hbody
    rw [← hrequest, ← hsettings] at hin
    rw [read_calm hbody hin hm]
    by_cases hcame : m.bodyCame = true
    · rw [if_pos hcame]
      exact .inr ⟨h', hsettings, hnetwork, rfl⟩
    · rw [if_neg hcame]
      exact .inl ⟨Bool.not_eq_true _ ▸ hcame, rfl, hsent⟩
  unfold poll
  cases ht with
  | idle hphase hsent =>
    rcases hphase with hphase | hphase | hphase
    · rw [hphase]
      dsimp only
      cases h.settings.deadline? h.now with
      | none => exact .inr (.inl ⟨rfl, hsent⟩)
      | some deadline =>
        dsimp only
        rw [method?_of_toInbound hin]
        exact .inr (.inr (hread _ rfl rfl rfl hsent))
    · rw [hphase]
      exact .inr (.inr (hread h rfl rfl rfl hsent))
    · rw [hphase]
      exact .inl ⟨rfl, .inl rfl⟩
  | begun isHeld hphase hanswer hsent =>
    rcases hphase with ⟨held, hphase⟩ | ⟨a, hphase⟩
    · rw [hphase]
      dsimp only
      unfold await
      rw [interruption?_calm h hm]
      exact .inr (.inr (.inr ⟨h, rfl, rfl, rfl⟩))
    · rw [hphase]
      exact .inl ⟨rfl, .inr ⟨a, rfl⟩⟩

theorem Tracks.poll (ht : h.Tracks i) (hbody : h.request.body = .complete bytes)
    (hin : h.request.toInbound bytes h.settings.maxBodyBytes = .ok i) (hm : m.IsCalm) :
    (h.poll m).Tracks i := by
  rcases poll_calm hbody hin ht hm with ⟨hsame, -⟩ | ⟨hphase, hsent⟩ | ⟨-, hphase, hsent⟩ | ⟨h', -, -, hpoll⟩
  · rw [hsame]
    exact ht
  · exact .idle (.inr (.inr hphase)) hsent
  · exact .idle (.inr (.inl hphase)) hsent
  · rw [hpoll]
    obtain ⟨hanswer, hsent, hphase⟩ := h'.forwardUntil_never i m.isHeld
    exact .begun m.isHeld hphase hanswer hsent

theorem Tracks.run (ht : h.Tracks i) (hbody : h.request.body = .complete bytes)
    (hin : h.request.toInbound bytes h.settings.maxBodyBytes = .ok i) {ms : List Moment}
    (hms : ∀ m ∈ ms, m.IsCalm) : (h.run ms).Tracks i := by
  induction ms generalizing h with
  | nil => exact ht
  | cons m ms ih =>
    obtain ⟨hsettings, -, hrequest, -⟩ := h.poll_keeps m
    have hpoll := ht.poll hbody hin (hms m List.mem_cons_self)
    exact ih hpoll (hrequest ▸ hbody) (hrequest ▸ hsettings ▸ hin)
      fun x hx => hms x (List.mem_cons_of_mem m hx)

theorem Tracks.sent_isPrefix (ht : h.Tracks i) :
    h.record.sent <+: (h.settings.forwarder.forward h.network i).2.sent := by
  cases ht with
  | idle _ hsent =>
    rw [hsent]
    exact List.nil_prefix
  | begun isHeld _ _ hsent =>
    rw [hsent]
    rcases h.settings.forwarder.forward_held h.network isHeld i with heq | ⟨-, hprefix⟩
    · have hsame := congrArg (·.2.sent) heq
      exact hsame ▸ List.prefix_rfl
    · exact hprefix

theorem Tracks.answer_eq (ht : h.Tracks i) {a : Answer} (ha : h.answer? = some a) :
    (h.settings.forwarder.forward h.network i).1 = some a ∧
      (h.settings.forwarder.forward h.network i).2.sent = h.record.sent := by
  cases ht with
  | idle hphase _ =>
    unfold answer? at ha
    rcases hphase with hphase | hphase | hphase <;> rw [hphase] at ha <;> cases ha
  | begun isHeld _ hanswer hsent =>
    rcases h.settings.forwarder.forward_held h.network isHeld i with heq | ⟨hnone, -⟩
    · rw [← heq, ← hanswer, hsent]
      exact ⟨ha, rfl⟩
    · rw [hanswer, hnone] at ha
      cases ha

theorem Tracks.poll_last (ht : h.Tracks i) (hsound : h.Sound) (hbody : h.request.body = .complete bytes)
    (hin : h.request.toInbound bytes h.settings.maxBodyBytes = .ok i) (hm : m.IsCalm)
    (hcame : m.bodyCame = true) (hheld : ∀ n, m.isHeld n = false) :
    (h.poll m).answer? = (h.settings.forwarder.forward h.network i).1 ∧
      (h.poll m).record.sent = (h.settings.forwarder.forward h.network i).2.sent := by
  rcases poll_calm hbody hin ht hm with ⟨hsame, hphase⟩ | ⟨hphase, -⟩ | ⟨hlate, -⟩ | ⟨h', hsettings, hnetwork, hpoll⟩
  · rcases hphase with hcrashed | ⟨a, hphase⟩
    · exact absurd hcrashed hsound.running
    · have ha : h.answer? = some a := by
        unfold answer?
        rw [hphase]
      obtain ⟨hanswer, hsent⟩ := ht.answer_eq ha
      rw [hsame, ha, hanswer, hsent]
      exact ⟨rfl, rfl⟩
  · exact absurd hphase (hsound.poll m).running
  · rw [hcame] at hlate
    cases hlate
  · obtain ⟨hanswer, hsent, -⟩ := h'.forwardUntil_never i m.isHeld
    rw [hsettings, hnetwork, Network.held_nothing _ hheld] at hanswer hsent
    rw [hpoll]
    exact ⟨hanswer, hsent⟩

end Handler

/-! ### Answers as responses -/

/-- Every reply has a status of three digits and header names, as all that are read from a connection
have. -/
structure Network.IsHttp (net : Network) : Prop where
  regular : net.IsRegular
  names : ∀ i status headers body, net.reply i = .answer status headers body →
    ∀ x ∈ headers, Http.isHeaderName x.1 = true

theorem Network.isHttp_of_read {net : Network} (h : ∀ i, net.reply i = .silent ∨ ∃ bs, net.reply i = Wire.read bs) :
    net.IsHttp := by
  have hread : ∀ i status headers body, net.reply i = .answer status headers body →
      ∃ bs, Wire.read bs = .answer status headers body := by
    intro i status headers body hreply
    rcases h i with hsilent | ⟨bs, hbs⟩
    · rw [hsilent] at hreply
      cases hreply
    · exact ⟨bs, hbs ▸ hreply⟩
  constructor
  · intro i status headers body hreply
    obtain ⟨bs, hbs⟩ := hread i status headers body hreply
    exact Wire.read_isStatus hbs
  · intro i status headers body hreply
    obtain ⟨bs, hbs⟩ := hread i status headers body hreply
    exact Wire.read_isHeaderName hbs

/-- A response with the status, the headers in lower case and the decoded body of an answer. -/
structure Answer.Shows (a : Answer) (response : Answer.Response) : Prop where
  status : response.status = a.status
  headers : response.headers = a.headers.entries.map fun e => (Ascii.lower e.1, Utf8.encode e.2)
  body : a.decodedBody = .ok response.body

theorem Answer.shows_toResponse {a : Answer} (hstatus : isStatus a.status = true)
    (hheaders : Headers.AllSendable a.headers) {bytes : Bytes} (hbody : a.decodedBody = .ok bytes) :
    a.Shows a.toResponse where
  status := if_pos hstatus
  headers := (toResponse_headers hheaders).1
  body := by
    unfold toResponse
    dsimp only
    rw [hbody]

theorem Forwarder.forward_shows {f : Forwarder} {net : Network} (hnet : net.IsHttp) {r : Inbound} {a : Answer}
    (ha : (f.forward net r).1 = some a) : a.Shows a.toResponse := by
  rcases f.forward_ends net r with ⟨hnone, -⟩ | ⟨i, status, headers, bytes, hreply, hanswer⟩ |
    ⟨fault, hfails, hanswer⟩
  · rw [ha] at hnone
    cases hnone
  · obtain rfl := Option.some.inj (ha.symm.trans hanswer)
    apply Answer.shows_toResponse
    · exact hnet.regular i status headers _ hreply
    · exact Answer.relay_allSendable (hnet.names i status headers _ hreply) f.mergeHeaders
    · exact Base64.decodeText_encode bytes
  · obtain rfl := Option.some.inj (ha.symm.trans hanswer)
    have htype : Answer.isSendable ("Content-Type", Answer.defaultContentType) = true := by decide +kernel
    apply Answer.shows_toResponse
    · exact hfails.isStatus hnet.regular
    · exact (Headers.allSendable_empty.set htype).allowAll
    · exact if_neg Bool.false_ne_true

/-! ### The two hosts -/

/-- A request that an HTTP client sends, and the event that holds what the relay makes of it. The event is
read as that request again. Whenever nothing interrupts the client's request, what is sent for it is sent
for the event too, and its answer is the answer to the event, which the response to the client shows;
once the body and the replies have come, both have been served. -/
theorem hosts_agree {net : Network} (hnet : net.IsHttp) {s : Settings} {r : Http.Request} {bytes : Bytes}
    {i : Inbound} (hnames : ∀ x ∈ r.headers, Ascii.lower x.1 = x.1) (hbody : r.body = .complete bytes)
    (hin : r.toInbound bytes s.maxBodyBytes = .ok i) (now : Nat) :
    let e := Event.ofInbound i
    let event := s.forwarder.handleEvent net e.toJson.compact
    Event.ofJsonText e.toJson.compact = .ok e ∧ e.toInbound = .ok i ∧
    ∀ ms : List Moment, (∀ m ∈ ms, m.deadlinePassed = false ∧ m.isStopping = false) →
      let h := ({ settings := s, network := net, request := r, now } : Handler).run ms
      h.record.sent <+: event.2.sent ∧
      (∀ a, h.answer? = some a →
        event.1 = some a ∧ event.2.sent = h.record.sent ∧ a.Shows a.toResponse) ∧
      ((s.deadline? now).isSome = true →
        (∃ m, ms.getLast? = some m ∧ m.bodyCame = true ∧ ∀ n, m.isHeld n = false) →
        h.answer? = event.1 ∧ h.record.sent = event.2.sent) := by
  intro e event
  obtain ⟨hread, htaken⟩ := Event.ofJsonText_ofInbound hnames hin
  have hevent : event = s.forwarder.forward net i := by
    show s.forwarder.handleEvent net e.toJson.compact = _
    unfold Forwarder.handleEvent
    rw [hread]
    dsimp only
    rw [htaken]
  refine ⟨hread, htaken, ?_⟩
  intro ms hms h
  rw [hevent]
  let fresh : Handler := { settings := s, network := net, request := r, now }
  have htracks : fresh.Tracks i := .idle (.inl rfl) rfl
  have hkeeps : ∀ ms, (fresh.run ms).settings = s ∧ (fresh.run ms).network = net ∧
      (fresh.run ms).request = r := by
    intro ms
    have htask := fresh.run_task ms
    simp only [Handler.task, Prod.mk.injEq] at htask
    exact ⟨htask.1, htask.2.1, htask.2.2.1⟩
  have hrun : h.Tracks i := htracks.run hbody hin hms
  obtain ⟨hsettings, hnetwork, -⟩ : h.settings = s ∧ h.network = net ∧ h.request = r := hkeeps ms
  refine ⟨?_, ?_, ?_⟩
  · have hprefix := hrun.sent_isPrefix
    rw [hsettings, hnetwork] at hprefix
    exact hprefix
  · intro a ha
    obtain ⟨hanswer, hsent⟩ := hrun.answer_eq ha
    rw [hsettings, hnetwork] at hanswer hsent
    exact ⟨hanswer, hsent, Forwarder.forward_shows hnet hanswer⟩
  · rintro hclock ⟨m, hlast, hcame, hheld⟩
    obtain ⟨front, rfl⟩ := List.getLast?_eq_some_iff.1 hlast
    -- the last moment is a poll of what the earlier ones have led to
    have hpoll : h = (fresh.run front).poll m := fresh.run_append front [m]
    obtain ⟨hsettings, hnetwork, hrequest⟩ := hkeeps front
    have hfront := htracks.run hbody hin fun x hx => hms x (List.mem_append_left [m] hx)
    have hsound := (Handler.sound_fresh (h := fresh) hclock rfl rfl).run front
    have hserved := hfront.poll_last hsound (hrequest.symm ▸ hbody) (hrequest.symm ▸ hsettings.symm ▸ hin)
      (hms m (List.mem_append_right front (List.mem_singleton.2 rfl))) hcame hheld
    rw [hsettings, hnetwork] at hserved
    rw [hpoll]
    exact hserved

/-- An upload that is no text, under names in capitals and with quotes in its query. The reply is held
back at first. -/
theorem hosts_agree_upload :
    let f : Forwarder := ⟨⟨⟨"http", some { host := .domain "origin.example" }, .segments [""], none, none⟩,
      ["/api"]⟩, {}, true⟩
    let s : Settings := ⟨f, 5, 1024⟩
    let net : Network := { dial := fun _ => .connected, reply := fun _ => Wire.read (Wire.write 201 [("X-A", [49])] [0, 255]) }
    let headers := [("Content-Type", Utf8.encode "image/gif"), ("X-Note", [34, 92, 9]), ("X-Bin", [255])]
    let i : Inbound :=
      { method := .put, path := "/api/x", query := .ofList [("q\"", "é")],
        headers := .ofList [("content-type", "image/gif"), ("x-note", "\"\\\t")],
        body := some "/wA=", isBase64Encoded := true }
    let ms : List Moment := [{ bodyCame := false }, { isHeld := fun _ => true }, {}]
    ∃ r, Http.Request.build "put" "/api/x?q%22=%C3%A9" headers (.complete [255, 0]) = .ok r ∧
      r.toInbound [255, 0] s.maxBodyBytes = .ok i ∧ net.IsHttp ∧
      let event := s.forwarder.handleEvent net (Event.ofInbound i).toJson.compact
      let h := ({ settings := s, network := net, request := r, now := 0 } : Handler).run ms
      ∃ a, event.1 = some a ∧ h.answer? = some a ∧ h.record.sent = event.2.sent ∧ a.Shows a.toResponse := by
  intro f s net headers i ms
  let r : Http.Request := ⟨"put", ⟨"/api/x", some "q%22=%C3%A9"⟩,
    [("content-type", Utf8.encode "image/gif"), ("x-note", [34, 92, 9]), ("x-bin", [255])],
    .complete [255, 0]⟩
  have hbuild : Http.Request.build "put" "/api/x?q%22=%C3%A9" headers (.complete [255, 0]) = .ok r := by
    decide +kernel
  have hin : r.toInbound [255, 0] s.maxBodyBytes = .ok i := by decide +kernel
  have hnet : net.IsHttp := 
    Network.isHttp_of_read fun _ => .inr ⟨Wire.write 201 [("X-A", [49])] [0, 255], rfl⟩
  obtain ⟨-, -, hserved⟩ := hosts_agree hnet (Http.Request.build_lower hbuild) rfl hin 0
  have hcalm : ∀ m ∈ ms, m.deadlinePassed = false ∧ m.isStopping = false := by simp [ms]
  obtain ⟨-, hanswered, hlast⟩ := hserved ms hcalm
  obtain ⟨hanswer, hsent⟩ := hlast (by decide) ⟨{}, rfl, rfl, fun _ => rfl⟩
  have hreply : ∀ n, net.reply n ≠ .silent := by
    have hfirst : (match Wire.read (Wire.write 201 [("X-A", [49])] [0, 255]) with
        | .silent => true
        | _ => false) = false := by decide +kernel
    intro n hsilent
    rw [show Wire.read (Wire.write 201 [("X-A", [49])] [0, 255]) = .silent from hsilent] at hfirst
    cases hfirst
  cases hevent : (s.forwarder.handleEvent net (Event.ofInbound i).toJson.compact).1 with
  | none =>
    obtain ⟨n, -, hsilent⟩ := Forwarder.handleEvent_eq_none hevent
    exact absurd hsilent (hreply n)
  | some a =>
    rw [hevent] at hanswer
    refine ⟨r, hbuild, hin, hnet, a, hevent, hanswer, hsent, ?_⟩
    exact (hanswered a hanswer).2.2

end Relay
