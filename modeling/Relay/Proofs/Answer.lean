import Relay.Proofs.Fidelity
import Relay.Proofs.JsonText
import Relay.Proofs.TextMap
import Relay.Server

/-!
What every answer has, whatever went before: the headers that let any site call, once each, and one
media type. An answer to a fault says in JSON what went wrong. None of this gets lost on the way to
the client.
-/

namespace Relay

/-! ### One header among others -/

namespace Headers

def entriesOf (m : TextMap) (name : String) : List (String × String) :=
  m.entries.filter fun e => Ascii.sameName e.1 name

theorem entriesOf_congr {name other : String} (h : Ascii.sameName name other = true) (m : TextMap) :
    entriesOf m name = entriesOf m other := by
  unfold entriesOf Ascii.sameName
  rw [(Ascii.sameName_iff name other).1 h]

theorem entriesOf_set_self (m : TextMap) (name value : String) :
    entriesOf (set m name value) name = [(name, value)] := by
  apply TextMap.filter_place_new
  · exact Ascii.sameName_refl name
  · -- the other spellings have been removed
    intro e he
    obtain ⟨-, hkeep⟩ := List.mem_filter.1 he
    simpa using hkeep

theorem entriesOf_set_other (m : TextMap) {name other : String} (h : Ascii.sameName name other = false)
    (value : String) : entriesOf (set m name value) other = entriesOf m other := by
  unfold entriesOf set
  show (TextMap.place name value (m.entries.filter fun e => !Ascii.sameName e.1 name)).filter _ = _
  rw [TextMap.filter_place_other (p := fun e => Ascii.sameName e.1 other) (fun _ => h), List.filter_filter]
  -- an entry under the one name is not under the other
  apply List.filter_congr
  intro e _
  by_cases hother : Ascii.sameName e.1 other = true
  · have hname : Ascii.sameName e.1 name = false := by
      rw [Ascii.sameName, (Ascii.sameName_iff e.1 other).1 hother, BEq.comm]
      exact h
    rw [hname, hother]
    rfl
  · rw [Bool.not_eq_true] at hother
    rw [hother]
    rfl

theorem entriesOf_foldl_other {headers : List (String × String)} {name : String}
    (h : ∀ x ∈ headers, Ascii.sameName x.1 name = false) (m : TextMap) :
    entriesOf (headers.foldl (fun m x => set m x.1 x.2) m) name = entriesOf m name := by
  induction headers generalizing m with
  | nil => rfl
  | cons x headers ih =>
    rw [List.foldl_cons, ih fun y hy => h y (List.mem_cons_of_mem x hy)]
    exact entriesOf_set_other m (h x List.mem_cons_self) x.2

theorem entriesOf_foldl_mem {headers : List (String × String)}
    (hdistinct : headers.Pairwise fun a b => Ascii.sameName b.1 a.1 = false) {x : String × String}
    (hx : x ∈ headers) (m : TextMap) :
    entriesOf (headers.foldl (fun m x => set m x.1 x.2) m) x.1 = [x] := by
  induction headers generalizing m with
  | nil => simp at hx
  | cons y headers ih =>
    obtain ⟨hy, hrest⟩ := List.pairwise_cons.1 hdistinct
    rw [List.foldl_cons]
    rcases List.mem_cons.1 hx with rfl | hx
    · -- the headers that follow leave it alone
      rw [entriesOf_foldl_other hy]
      exact entriesOf_set_self m x.1 x.2
    · exact ih hrest hx _

theorem entriesOf_allowAll {x : String × String} (hx : x ∈ cors) (m : TextMap) :
    entriesOf (allowAll m) x.1 = [x] :=
  entriesOf_foldl_mem (by decide +kernel) hx m

end Headers

/-! ### Answers that any site may read -/

namespace Answer

def values (a : Answer) (name : String) : List Bytes :=
  (Headers.entriesOf a.headers name).map fun e => Utf8.encode e.2

theorem toResponse_values (a : Answer) {name : String} (hname : Ascii.lower name = name) :
    a.toResponse.headers.values name =
      ((Headers.entriesOf a.headers name).filter isSendable).map fun e => Utf8.encode e.2 := by
  have hsame : ∀ e : String × String, (Ascii.lower e.1 == name) = Ascii.sameName e.1 name := by
    intro e
    rw [Ascii.sameName, hname]
  unfold toResponse Http.Headers.values Headers.entriesOf
  rw [List.filter_map, List.map_map, List.filter_filter, List.filter_filter]
  show List.map (fun e => Utf8.encode e.2) (a.headers.entries.filter fun e =>
    (Ascii.lower e.1 == name) && isSendable e) = _
  apply congrArg
  apply List.filter_congr
  intro e _
  rw [hsame, Bool.and_comm]

theorem parse_errorBody (fault : Fault) : Json.parse (errorBody fault).compact = .ok (errorBody fault) := by
  apply Json.parse_compact_object (by simp)
  intro m hm
  simp only [List.mem_cons, List.not_mem_nil, or_false] at hm
  rcases hm with rfl | rfl
  · exact Json.readsBack_string _ _
  · exact Json.readsBack_string _ _

/-- The answer says what went wrong: by its status, and by a text that is JSON and not encoded. -/
structure Reports (a : Answer) (fault : Fault) : Prop where
  status : a.status = match fault with
    | .refused _ => 400
    | .transport status _ => status.getD 500
    | .cancelled => 500
    | .timedOut _ => 504
  body : Json.parse a.body =
    .ok (.object [("error", .string "Proxy failed"), ("details", .string fault.message)])
  sent : a.isBase64Encoded = false ∧ a.toResponse.body = Utf8.encode a.body

theorem ofFault_reports (fault : Fault) : (ofFault fault).Reports fault where
  status := by
    cases fault with
    | transport status message => cases status <;> rfl
    | _ => rfl
  body := by
    have hbody : (ofFault fault).body = (errorBody fault).compact := rfl
    rw [hbody, parse_errorBody]
    rfl
  sent := by
    have hdecoded : (ofFault fault).decodedBody = .ok (Utf8.encode (ofFault fault).body) :=
      if_neg Bool.false_ne_true
    refine ⟨rfl, ?_⟩
    unfold toResponse
    rw [hdecoded]

theorem ofFault_allSendable (fault : Fault) : Headers.AllSendable (ofFault fault).headers :=
  (Headers.allSendable_empty.set (by decide +kernel)).allowAll

theorem ofFault_headers (fault : Fault) : (ofFault fault).headers.entries =
    [("Access-Control-Allow-Headers", "Content-Type, Authorization, Accept"),
      ("Access-Control-Allow-Methods", "GET, POST, PUT, DELETE, PATCH, OPTIONS"),
      ("Access-Control-Allow-Origin", "*"), ("Content-Type", "application/json")] := by
  show (Headers.allowAll (Headers.set .empty "Content-Type" defaultContentType)).entries = _
  decide +kernel

/-- What went wrong can be read off the answer, whatever the text that says so holds: the body is an
object with two members, and neither it nor a header is lost when the answer is sent. -/
theorem ofFault_readable (fault : Fault) :
    Json.parse (ofFault fault).body =
      .ok (.object [("error", .string "Proxy failed"), ("details", .string fault.message)]) ∧
    (ofFault fault).isBase64Encoded = false ∧
    (ofFault fault).decodedBody = .ok (Utf8.encode (ofFault fault).body) ∧
    (ofFault fault).headers.entries =
      [("Access-Control-Allow-Headers", "Content-Type, Authorization, Accept"),
        ("Access-Control-Allow-Methods", "GET, POST, PUT, DELETE, PATCH, OPTIONS"),
        ("Access-Control-Allow-Origin", "*"), ("Content-Type", "application/json")] ∧
    (ofFault fault).toResponse =
      { status := if 100 ≤ fault.status.toNat ∧ fault.status.toNat ≤ 999 then fault.status else 502
        headers :=
          [("access-control-allow-headers", Utf8.encode "Content-Type, Authorization, Accept"),
            ("access-control-allow-methods", Utf8.encode "GET, POST, PUT, DELETE, PATCH, OPTIONS"),
            ("access-control-allow-origin", Utf8.encode "*"),
            ("content-type", Utf8.encode "application/json")]
        body := Utf8.encode (ofFault fault).body } ∧
    (ofFault fault).responseLog = [] := by
  have hreports := ofFault_reports fault
  have hdecoded : (ofFault fault).decodedBody = .ok (Utf8.encode (ofFault fault).body) :=
    if_neg Bool.false_ne_true
  have hsendable := ofFault_allSendable fault
  refine ⟨hreports.body, rfl, hdecoded, ofFault_headers fault, ?_, responseLog_eq_nil hsendable hdecoded⟩
  have hstatus : (ofFault fault).toResponse.status =
      if 100 ≤ fault.status.toNat ∧ fault.status.toNat ≤ 999 then fault.status else 502 := by
    show (if isStatus fault.status then fault.status else 502) = _
    simp only [isStatus, Bool.and_eq_true, decide_eq_true_eq]
  have hheaders := (toResponse_headers hsendable).1
  rw [ofFault_headers] at hheaders
  have hlower : Ascii.lower "Access-Control-Allow-Headers" = "access-control-allow-headers" ∧
      Ascii.lower "Access-Control-Allow-Methods" = "access-control-allow-methods" ∧
      Ascii.lower "Access-Control-Allow-Origin" = "access-control-allow-origin" ∧
      Ascii.lower "Content-Type" = "content-type" := by decide +kernel
  simp only [List.map_cons, List.map_nil, hlower] at hheaders
  rw [← hstatus, ← hheaders, ← hreports.sent.2]

end Answer

/-! ### On the way to the client -/

theorem Http.Headers.values_append (hs more : Http.Headers) (name : String) :
    (hs ++ more).values name = hs.values name ++ more.values name := by
  unfold Http.Headers.values
  rw [List.filter_append, List.map_append]

theorem Http.Headers.get?_eq_head? (hs : Http.Headers) (name : String) :
    hs.get? name = (hs.values name).head? := by
  unfold Http.Headers.get? Http.Headers.values
  rw [← List.head?_filter, ← List.head?_map]

end Relay
