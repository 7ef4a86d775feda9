import Relay.Proofs.Deadline
import Relay.Proofs.HeaderWrites
import Relay.Proofs.Hosts

/-!
The id of a request on its way through. A client always gets one id back, and the log opens a request
with its own. They are the same unless replies are merged into answers: then an id that the origin
server sends along takes the place of the own one.
-/

namespace Relay

/-! ### The id in a response -/

/-- The id that a reply brings along, if replies are merged into answers. -/
def mergedId? (mergeHeaders : Bool) (received : Http.Headers) : Option String :=
  if mergeHeaders then Headers.joinedText? received requestIdHeader else none

theorem Answer.relay_requestId (received : Received) (mergeHeaders : Bool)
    (hlower : ∀ x ∈ received.headers, Ascii.lower x.1 = x.1) :
    (Answer.relay received mergeHeaders).toResponse.headers.values requestIdHeader =
      ((mergedId? mergeHeaders received.headers).map Utf8.encode).toList := by
  have hname : Ascii.lower requestIdHeader = requestIdHeader := by decide +kernel
  have hmerged : Headers.entriesOf
      (if mergeHeaders then Headers.merge received.headers .empty else .empty) requestIdHeader =
      ((mergedId? mergeHeaders received.headers).map fun text => (requestIdHeader, text)).toList := by
    unfold mergedId?
    by_cases hmerge : mergeHeaders = true
    · have hkept : ¬Headers.isStripped requestIdHeader = true := by decide +kernel
      rw [if_pos hmerge, if_pos hmerge, Headers.entriesOf_merge hlower, hname, Headers.mergedText?,
        if_neg hkept]
      cases Headers.joinedText? received.headers requestIdHeader <;> rfl
    · rw [if_neg hmerge, if_neg hmerge]
      rfl
  -- the headers that are set afterwards have other names
  have hentries : Headers.entriesOf (Answer.relay received mergeHeaders).headers requestIdHeader =
      ((mergedId? mergeHeaders received.headers).map fun text => (requestIdHeader, text)).toList := by
    unfold Answer.relay Headers.allowAll
    rw [Headers.entriesOf_foldl_other (by decide +kernel), Headers.entriesOf_set_other _ (by decide +kernel)]
    exact hmerged
  rw [Answer.toResponse_values _ hname, hentries]
  cases hid : mergedId? mergeHeaders received.headers with
  | none => rfl
  | some text =>
    have htext : ∀ c ∈ text.toList, Headers.IsTextChar c := by
      unfold mergedId? at hid
      split at hid
      · exact Headers.joinedText?_isTextChar hid
      · cases hid
    have hsend : Answer.isSendable (requestIdHeader, text) = true :=
      Headers.isSendable_of_text (by decide +kernel) htext
    simp only [Option.map_some, Option.toList_some, List.filter_cons, hsend, if_true, List.filter_nil,
      List.map_cons, List.map_nil]

theorem Answer.ofFault_requestId (fault : Fault) :
    (Answer.ofFault fault).toResponse.headers.values requestIdHeader = [] := by
  have hentries : Headers.entriesOf (Answer.ofFault fault).headers requestIdHeader = [] := by
    unfold Answer.ofFault Headers.allowAll
    rw [Headers.entriesOf_foldl_other (by decide +kernel), Headers.entriesOf_set_other _ (by decide +kernel)]
    rfl
  rw [Answer.toResponse_values _ (by decide +kernel), hentries]
  rfl

theorem Http.Headers.contains_eq (hs : Http.Headers) (name : String) :
    hs.contains name = !(hs.values name).isEmpty := by
  unfold Http.Headers.contains Http.Headers.values
  induction hs with
  | nil => rfl
  | cons x hs ih =>
    rw [List.any_cons, List.filter_cons, ih]
    cases x.1 == name <;> rfl

theorem finishResponse_requestId (r : Http.Request) (freshId : String) {response : Answer.Response}
    (id : Option Bytes) (h : response.headers.values requestIdHeader = id.toList) :
    (finishResponse r freshId response).headers.values requestIdHeader =
      [id.getD (requestId r freshId)] := by
  -- the length stands under another name
  have hlength : ∀ value : Bytes, Http.Headers.values (if response.headers.contains "content-length" then
      response.headers else response.headers ++ [("content-length", value)]) requestIdHeader = id.toList := by
    intro value
    split
    · exact h
    · rw [Http.Headers.values_append, h]
      exact List.append_nil _
  have hadd : ∀ hs : Http.Headers, hs.values requestIdHeader = id.toList →
      Http.Headers.values (if hs.contains requestIdHeader then hs
        else hs ++ [(requestIdHeader, requestId r freshId)]) requestIdHeader =
        [id.getD (requestId r freshId)] := by
    intro hs hvalues
    rw [Http.Headers.contains_eq, hvalues]
    cases id with
    | some bytes => exact hvalues
    | none =>
      -- the own id is added, and is the only one
      show Http.Headers.values (hs ++ [(requestIdHeader, requestId r freshId)]) requestIdHeader = _
      rw [Http.Headers.values_append, hvalues]
      rfl
  exact hadd _ (hlength _)

theorem requestId_eq (r : Http.Request) (freshId : String) :
    requestId r freshId = (r.headers.values requestIdHeader).headD (Utf8.encode freshId) := by
  unfold requestId
  rw [Http.Headers.get?_eq_head?, List.headD_eq_head?_getD]

/-! ### Names that were received -/

theorem Wire.field_lower {line : Bytes} {x : String × Bytes} (h : field line = .ok x) :
    Ascii.lower x.1 = x.1 := by
  unfold field at h
  dsimp only at h
  split at h
  · rw [← Except.ok.inj h]
    exact Ascii.lower_lower _
  · cases h

def Network.HasLowerNames (net : Network) : Prop :=
  ∀ i status headers body, net.reply i = .answer status headers body →
    ∀ x ∈ headers, Ascii.lower x.1 = x.1

theorem Wire.hasLowerNames (dial : Url → Dial) (replies : Nat → Bytes) :
    Network.HasLowerNames { dial, reply := fun i => read (replies i) } := by
  intro i status headers body hreply
  obtain ⟨_, _, _, -, hfields⟩ := read_eq_answer hreply
  exact forall_mem_fields (fun _ _ => field_lower) hfields

/-! ### One id for each request -/

namespace InFlight

theorem service_logs_head (f : InFlight) : f.service.logs.head? = some (spanEntry f.request f.freshId) := by
  unfold service
  split
  · rfl
  · split <;> rfl

theorem service_response {s : Settings} {net : Network} {now : Nat} {freshId : String} {r : Http.Request}
    (hroute : isRouted r = true) {ms : List Moment} {response : Answer.Response}
    (h : ((start s net now freshId r).run ms).service.delivery = .response response) :
    (∃ m ∈ ms, ∃ fault, Handler.Due s net r m fault ∧
      response = finishResponse r freshId (Answer.ofFault fault).toResponse) ∨
    ∃ i status headers bytes, net.reply i = .answer status headers (.ok bytes) ∧
      response = finishResponse r freshId
        (Answer.relay ⟨status, headers, bytes⟩ s.forwarder.mergeHeaders).toResponse := by
  let fresh : Handler := { settings := s, network := net, request := r, now }
  cases hdeadline : s.deadline? now with
  | none =>
    -- beyond the clock there is no response
    cases ms with
    | nil =>
      rw [run_start hroute] at h
      cases h
    | cons m ms =>
      rw [service_beyond hdeadline hroute] at h
      cases h
  | some deadline =>
    have hsound : fresh.Sound := Handler.sound_fresh (Option.isSome_of_eq_some hdeadline) rfl rfl
    rw [run_start hroute] at h
    rcases Handler.run_gives hsound rfl ms with ⟨-, hopen, -⟩ | ⟨a, -, ha, m, hm, hgives⟩
    · rw [service_waiting rfl (hsound.run ms) hopen] at h
      cases h
    · rw [service_answered rfl ha] at h
      obtain rfl := Delivery.response.inj h
      cases hgives with
      | relayed hreply => exact .inr ⟨_, _, _, _, hreply, rfl⟩
      | fault hdue => exact .inl ⟨m, hm, _, hdue, rfl⟩

/-- Every response carries one id, and the log opens the request with its own: the first that the client
sent, or the fresh one. The response has the same, unless it relays a reply that brings ids along which
are text, and replies are merged; then these stand in its place, with commas between them. -/
theorem response_requestId {net : Network} (hnet : net.HasLowerNames) (s : Settings) {r : Http.Request}
    (hroute : isRouted r = true) (now : Nat) (freshId : String) (ms : List Moment) :
    let served := ((start s net now freshId r).run ms).service
    let own := (r.headers.values "x-request-id").headD (Utf8.encode freshId)
    served.logs.head? = some (.span r.method ((Http.headerText? own).getD "unknown")) ∧
    ((s.deadline? now).isSome = true → (∃ m ∈ ms, m.deadlinePassed = true) →
      ∃ response, served.delivery = .response response) ∧
    ∀ response, served.delivery = .response response →
      (response.headers.values "x-request-id" = [own] ∧ ∃ m ∈ ms, ∃ fault, Handler.Due s net r m fault ∧
        response = finishResponse r freshId (Answer.ofFault fault).toResponse) ∨
      ∃ i status headers bytes, net.reply i = .answer status headers (.ok bytes) ∧
        response = finishResponse r freshId
          (Answer.relay ⟨status, headers, bytes⟩ s.forwarder.mergeHeaders).toResponse ∧
        let ids := (headers.values "x-request-id").filterMap Http.headerText?
        response.headers.values "x-request-id" =
          [if s.forwarder.mergeHeaders = true ∧ ids ≠ [] then Utf8.encode (", ".intercalate ids) else own] := by
  intro served own
  have hown : requestId r freshId = own := requestId_eq r freshId
  refine ⟨?_, ?_, ?_⟩
  · have hspan : served.logs.head? = some (spanEntry r freshId) := by
      rw [service_logs_head, run_start hroute]
    rw [hspan, spanEntry, hown]
  · -- a request without an answer has not seen its deadline pass
    rintro hclock ⟨m, hm, hpassed⟩
    rcases service_within hclock hroute net freshId ms with hresponse | ⟨-, hopen⟩
    · exact hresponse
    · rw [hopen m hm] at hpassed
      cases hpassed
  · intro response hresponse
    rcases service_response hroute hresponse with
      ⟨m, hm, fault, hdue, rfl⟩ | ⟨i, status, headers, bytes, hreply, rfl⟩
    · refine .inl ⟨?_, m, hm, fault, hdue, rfl⟩
      rw [← hown]
      exact finishResponse_requestId r freshId none (Answer.ofFault_requestId fault)
    · refine .inr ⟨i, status, headers, bytes, hreply, rfl, ?_⟩
      intro ids
      -- ids that are no text are not merged, and without any the own id stays
      have hvalues := finishResponse_requestId r freshId _
        (Answer.relay_requestId ⟨status, headers, bytes⟩ s.forwarder.mergeHeaders (hnet _ _ _ _ hreply))
      have hjoined : Headers.joinedText? headers requestIdHeader =
          if ids = [] then none else some (", ".intercalate ids) := Headers.joinedText?_eq headers _
      rw [hown, mergedId?, hjoined] at hvalues
      refine hvalues.trans ?_
      by_cases hmerge : s.forwarder.mergeHeaders = true
      · by_cases hids : ids = []
        · rw [if_pos hmerge, if_pos hids, if_neg fun h => h.2 hids]
          rfl
        · rw [if_pos hmerge, if_neg hids, if_pos ⟨hmerge, hids⟩]
          rfl
      · rw [if_neg hmerge, if_neg fun h => hmerge h.1]
        rfl

/-- A client with an id of its own gets back what the origin server calls the request, while the log has
the id that the client sent. -/
theorem response_requestId_replaced :
    let f : Forwarder := ⟨⟨⟨"http", some { host := .domain "origin.example" }, .segments [""], none, none⟩,
      ["/api"]⟩, {}, true⟩
    let s : Settings := ⟨f, 5, 3⟩
    let headers : Http.Headers := [("x-request-id", Utf8.encode "a"), ("x-request-id", Utf8.encode "b")]
    let net := Network.scripted [.answer 299 headers (.ok [])]
    let r : Http.Request := ⟨"GET", ⟨"/api/x", none⟩, [("x-request-id", Utf8.encode "mine")], .complete []⟩
    let served := ((start s net 0 "fresh" r).run [{}]).service
    net.HasLowerNames ∧ isRouted r = true ∧ served.logs.head? = some (.span "GET" "mine") ∧
      ∃ response, served.delivery = .response response ∧
        response.headers.values "x-request-id" = [Utf8.encode "a, b"] := by
  intro f s headers net r served
  have hreplies : ∀ i, net.reply i = .answer 299 headers (.ok []) := by
    intro i
    cases i <;> rfl
  have hnet : net.HasLowerNames := by
    intro i status received body hreply
    rw [hreplies] at hreply
    obtain ⟨-, rfl, -⟩ := Reply.answer.inj hreply
    decide +kernel
  have hroute : isRouted r = true := by decide +kernel
  obtain ⟨hspan, -, hid⟩ := response_requestId hnet s hroute 0 "fresh" [{}]
  refine ⟨hnet, hroute, ?_, ?_⟩
  · rw [hspan]
    decide +kernel
  · let h : Handler := { settings := s, network := net, request := r, now := 0 }
    have hcode : (h.run [{}]).answer?.map (·.status) = some 299 := by decide +kernel
    obtain ⟨a, ha, hstatus⟩ := Option.map_eq_some_iff.1 hcode
    have hdelivery : served.delivery = .response (finishResponse r "fresh" a.toResponse) := by
      have hrun := run_start hroute s net 0 "fresh" [{}]
      exact (congrArg (·.service.delivery) hrun).trans (service_answered rfl ha)
    refine ⟨_, hdelivery, ?_⟩
    rcases hid _ hdelivery with
      ⟨-, m, -, fault, hdue, hfault⟩ | ⟨i, status, received, bytes, hreply, -, hvalues⟩
    · -- no fault has the status of the reply
      have hsame := congrArg Answer.Response.status hfault
      change a.toResponse.status = (Answer.ofFault fault).toResponse.status at hsame
      rw [Answer.toResponse, hstatus] at hsame
      cases hdue with
      | forwarded _ hfails =>
        cases hfails with
        | cutShort hreply =>
          rw [hreplies] at hreply
          cases hreply
        | _ => cases hsame
      | _ => cases hsame
    · rw [hreplies] at hreply
      obtain ⟨-, rfl, -⟩ := Reply.answer.inj hreply
      rw [hvalues]
      decide +kernel

end InFlight

end Relay
