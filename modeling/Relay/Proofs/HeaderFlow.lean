import Mathlib.Data.List.TakeDrop
import Relay.Proofs.Exchange
import Relay.Proofs.Forwarder

/-!
What of the inbound headers gets out. Three names are looked up and nothing else of the headers is
ever read: two requests that agree on these look-ups cannot be told apart by what is sent, answered
or recorded, and no other header name reaches the origin server.
-/

namespace Relay

/-! ### The selected headers -/

namespace Headers

def Sendable (r : Inbound) (name : String) : Prop :=
  ∀ value, r.header? name = some value →
    ∀ b ∈ Utf8.encode value, b.toNat = 9 ∨ (32 ≤ b.toNat ∧ b.toNat ≠ 127)

def found (r : Inbound) (names : List String) : Http.Headers :=
  names.filterMap fun name => (r.header? name).map fun value => (name, Utf8.encode value)

theorem found_cons (r : Inbound) (name : String) (names : List String) :
    found r (name :: names) =
      ((r.header? name).map fun value => (name, Utf8.encode value)).toList ++ found r names := by
  rw [found, List.filterMap_cons]
  cases r.header? name <;> rfl

theorem isHeaderValue_iff (bs : Bytes) :
    Http.isHeaderValue bs = true ↔ ∀ b ∈ bs, b.toNat = 9 ∨ (32 ≤ b.toNat ∧ b.toNat ≠ 127) := by
  simp [Http.isHeaderValue, Http.isValueByte]

theorem go_of_sendable {r : Inbound} {name : String} (h : Sendable r name) (names : List String) :
    select.go r (name :: names) = (select.go r names).map (found r [name] ++ ·) := by
  rw [select.go, found_cons]
  cases hvalue : r.header? name with
  | none => cases select.go r names <;> rfl
  | some value =>
    have hbytes : Http.isHeaderValue (Utf8.encode value) = true :=
      (isHeaderValue_iff _).2 (h value hvalue)
    dsimp only
    rw [if_pos hbytes]
    cases select.go r names <;> rfl

theorem go_of_not_sendable {r : Inbound} {name : String} (h : ¬Sendable r name) (names : List String) :
    select.go r (name :: names) = .error (.invalidHeaderValue name) := by
  rw [select.go]
  cases hvalue : r.header? name with
  | none => exact absurd (by simp [Sendable, hvalue]) h
  | some value =>
    have hbytes : ¬Http.isHeaderValue (Utf8.encode value) = true := by
      simpa [Sendable, hvalue, isHeaderValue_iff] using h
    dsimp only
    rw [if_neg hbytes]

/-- The names are checked one after another, and the first that fails is named. -/
theorem go_cases (r : Inbound) (names : List String) :
    ((∀ name ∈ names, Sendable r name) ∧ select.go r names = .ok (found r names)) ∨
    ∃ front name back, names = front ++ name :: back ∧ (∀ n ∈ front, Sendable r n) ∧
      ¬Sendable r name ∧ select.go r names = .error (.invalidHeaderValue name) := by
  induction names with
  | nil => exact .inl ⟨by simp, rfl⟩
  | cons name names ih =>
    by_cases hsend : Sendable r name
    · rw [go_of_sendable hsend]
      rcases ih with ⟨hall, hgo⟩ | ⟨front, bad, back, rfl, hfront, hbad, hgo⟩
      · refine .inl ⟨List.forall_mem_cons.2 ⟨hsend, hall⟩, ?_⟩
        rw [hgo]
        exact congrArg Except.ok List.filterMap_append.symm
      · refine .inr ⟨name :: front, bad, back, rfl, List.forall_mem_cons.2 ⟨hsend, hfront⟩, hbad, ?_⟩
        rw [hgo]
        rfl
    · exact .inr ⟨[], name, names, rfl, by simp, hsend, go_of_not_sendable hsend names⟩

theorem select_ok {r : Inbound} {hs : Http.Headers} (h : select r = .ok hs) :
    (∀ name ∈ forwarded, Sendable r name) ∧ hs = found r forwarded := by
  rcases go_cases r forwarded with ⟨hall, hgo⟩ | ⟨front, name, back, -, -, -, hgo⟩
  · exact ⟨hall, Except.ok.inj (h.symm.trans hgo)⟩
  · exact absurd (h.symm.trans hgo) (by simp)

theorem select_eq_ok_iff (r : Inbound) :
    (∃ hs, select r = .ok hs) ↔ ∀ name ∈ forwarded, Sendable r name := by
  constructor
  · rintro ⟨hs, h⟩
    exact (select_ok h).1
  · intro hall
    rcases go_cases r forwarded with ⟨-, hgo⟩ | ⟨front, name, back, hnames, -, hbad, -⟩
    · exact ⟨_, hgo⟩
    · exact absurd (hall name (by rw [hnames]; simp)) hbad

theorem select_error {r : Inbound} {e : Refusal} (h : select r = .error e) :
    ∃ front name back, forwarded = front ++ name :: back ∧ (∀ n ∈ front, Sendable r n) ∧
      ¬Sendable r name ∧ e = .invalidHeaderValue name := by
  rcases go_cases r forwarded with ⟨-, hgo⟩ | ⟨front, name, back, hnames, hfront, hbad, hgo⟩
  · exact absurd (h.symm.trans hgo) (by simp)
  · exact ⟨front, name, back, hnames, hfront, hbad, Except.error.inj (h.symm.trans hgo)⟩

theorem values_found (r : Inbound) {names : List String} (hnames : names.Nodup) (name : String) :
    (found r names).values name =
      if name ∈ names then ((r.header? name).map Utf8.encode).toList else [] := by
  induction names with
  | nil => rfl
  | cons first names ih =>
    obtain ⟨hfirst, hrest⟩ := List.nodup_cons.1 hnames
    have hvalues : ∀ hs hs' : Http.Headers, (hs ++ hs').values name = hs.values name ++ hs'.values name := by
      simp [Http.Headers.values]
    -- the names differ, so what was found under `first` is not found again
    rw [found_cons, hvalues, ih hrest]
    by_cases hname : name = first
    · subst hname
      rw [if_neg hfirst, if_pos List.mem_cons_self]
      cases r.header? name <;> simp [Http.Headers.values]
    · have hnone : Http.Headers.values
          ((r.header? first).map fun value => (first, Utf8.encode value)).toList name = [] := by
        cases r.header? first <;> simp [Http.Headers.values, Ne.symm hname]
      rw [hnone, List.nil_append]
      simp [hname]

theorem mem_found {r : Inbound} {names : List String} {h : String × Bytes} (hh : h ∈ found r names) :
    h.1 ∈ names ∧ ∃ value, r.header? h.1 = some value ∧ h.2 = Utf8.encode value := by
  obtain ⟨name, hname, hsome⟩ := List.mem_filterMap.1 hh
  obtain ⟨value, hvalue, rfl⟩ := Option.map_eq_some_iff.1 hsome
  exact ⟨hname, value, hvalue, rfl⟩

end Headers

/-! ### Names on the wire -/

namespace Client

def wireNames : List String :=
  ["host", "accept", "authorization", "content-type", "content-length", "user-agent", "referer"]

/-- The names of a hop: those that are selected, and the one that names the source of a redirect. -/
def hopNames : List String := ["accept", "authorization", "content-type", "referer"]

def Named (hs : Http.Headers) : Prop := ∀ h ∈ hs, h.1 ∈ hopNames

/-- All that a hop sends, or can send on, goes by these names. -/
structure Hop.HasNames (hop : Hop) : Prop where
  headers : Named hop.headers
  original : Named hop.original

theorem firstHop_hasNames {out : Outbound} (h : ∀ x ∈ out.headers, x.1 ∈ Headers.forwarded) :
    (firstHop out).HasNames := by
  have hsub : ∀ name ∈ Headers.forwarded, name ∈ hopNames := by decide
  have hout : Named out.headers := fun x hx => hsub x.1 (h x hx)
  -- the credentials of the URL stand in for a header that was not selected
  have hfirst : Named (firstHeaders out) := by
    unfold firstHeaders
    split
    · split
      · exact hout
      · intro x hx
        rcases List.mem_cons.1 hx with rfl | hx
        · show "authorization" ∈ hopNames
          decide
        · exact hout x hx
    · exact hout
  exact ⟨hfirst, hfirst⟩

section

variable {copy : HeaderCopy} {hop : Hop} {status : UInt16} {url : Url} {x : String × Bytes}

/-- A redirect takes headers away for good, and adds none. -/
theorem mem_source_of_mem_nextHop (hx : x ∈ (nextHop copy hop status url).original) :
    x ∈ hop.source copy := by
  unfold nextHop at hx
  dsimp only at hx
  split at hx
  · exact (List.mem_filter.1 hx).1
  · exact hx

theorem mem_original_of_mem_nextHop (hx : x ∈ (nextHop copy hop status url).headers) :
    x ∈ (nextHop copy hop status url).original ∨ x.1 = "referer" := by
  have hserver : ∀ hs : Http.Headers,
      x ∈ (if sameServer hop.url url = true then hs else hs.filter fun h => h.1 != "authorization") →
      x ∈ hs := by
    intro hs hkept
    split at hkept
    · exact hkept
    · exact (List.mem_filter.1 hkept).1
  unfold nextHop at hx ⊢
  dsimp only at hx ⊢
  split at hx
  · rcases List.mem_append.1 hx with hkept | hnew
    · exact .inl (hserver _ (List.mem_filter.1 hkept).1)
    · exact .inr (by rw [List.mem_singleton.1 hnew])
  · exact .inl (hserver _ (List.mem_filter.1 hx).1)

theorem Hop.HasNames.source (h : hop.HasNames) : Named (hop.source copy) := by
  cases copy with
  | first => exact h.original
  | previous => exact h.headers

theorem Hop.HasNames.nextHop (h : hop.HasNames) : (nextHop copy hop status url).HasNames where
  headers := by
    intro x hx
    rcases mem_original_of_mem_nextHop hx with hkept | hreferer
    · exact h.source x (mem_source_of_mem_nextHop hkept)
    · rw [hreferer]
      decide
  original := fun x hx => h.source x (mem_source_of_mem_nextHop hx)

end

theorem wireHeaders_named {client : Client} {hop : Hop} (h : Named hop.headers) :
    ∀ x ∈ wireHeaders client hop, x.1 ∈ wireNames := by
  have hsub : ∀ name ∈ hopNames, name ∈ wireNames := by decide
  intro x hx
  unfold wireHeaders at hx
  simp only [List.cons_append, List.append_assoc, List.mem_cons, List.mem_append] at hx
  rcases hx with rfl | hx | hx | hx | hx
  · show "host" ∈ wireNames
    decide
  · exact hsub x.1 (h x hx)
  · split at hx
    · simp at hx
    · rw [List.mem_singleton.1 hx]
      show "accept" ∈ wireNames
      decide
  · split at hx
    · rw [List.mem_singleton.1 hx]
      show "user-agent" ∈ wireNames
      decide
    · simp at hx
  · split at hx
    · simp at hx
    · rw [List.mem_singleton.1 hx]
      show "content-length" ∈ wireNames
      decide

theorem lower_titleCase : ∀ name ∈ wireNames, Ascii.lower (titleCase name) ∈ wireNames := by
  decide +kernel

theorem follow_named (client : Client) (net : Network) (left index : Nat) {hop : Hop} (h : hop.HasNames) :
    ∀ s ∈ (follow client net left index hop).1, ∀ x ∈ s.headers, Ascii.lower x.1 ∈ wireNames := by
  refine forall_mem_follow client left index net (I := Hop.HasNames)
    (P := fun s => ∀ x ∈ s.headers, Ascii.lower x.1 ∈ wireNames) ?_ ?_ ?_ hop h
  · -- names are sorted and spelled with capitals on the wire
    intro hop hhop x hx
    obtain ⟨y, hy, rfl⟩ := List.mem_map.1 hx
    exact lower_titleCase y.1 (wireHeaders_named hhop.headers y (List.mem_mergeSort.1 hy))
  · -- a request for a tunnel carries nothing of the hop
    intro hop _ x hx
    have hnames : Ascii.lower "Host" ∈ wireNames ∧ Ascii.lower "user-agent" ∈ wireNames := by
      decide +kernel
    unfold sendConnect at hx
    dsimp only at hx
    rcases List.mem_cons.1 hx with rfl | hx
    · exact hnames.1
    · split at hx
      · rw [List.mem_singleton.1 hx]
        exact hnames.2
      · simp at hx
  · exact fun hop status url hhop => hhop.nextHop

end Client

/-! ### Two requests -/

/-- Requests that agree on everything that is read of them. -/
structure Inbound.Agrees (r r' : Inbound) : Prop where
  method : r.method = r'.method
  path : r.path = r'.path
  query : r.query = r'.query
  body : r.body = r'.body
  isBase64Encoded : r.isBase64Encoded = r'.isBase64Encoded
  headers : ∀ name ∈ Headers.forwarded, r.header? name = r'.header? name

theorem Headers.go_congr {r r' : Inbound} {names : List String}
    (h : ∀ name ∈ names, r.header? name = r'.header? name) : select.go r names = select.go r' names := by
  induction names with
  | nil => rfl
  | cons name names ih =>
    rw [select.go, select.go, h name List.mem_cons_self,
      ih fun n hn => h n (List.mem_cons_of_mem name hn)]

namespace Forwarder

variable {f : Forwarder} {r r' : Inbound}

theorem prepare_congr (h : r.Agrees r') : f.prepare r = f.prepare r' := by
  have hselect : Headers.select r = Headers.select r' := Headers.go_congr h.headers
  unfold prepare
  rw [h.method, h.path, h.query, h.body, h.isBase64Encoded, hselect,
    h.headers "content-type" (by decide)]

theorem forwardUntil_congr (h : r.Agrees r') (net : Network) (stop : Stop) :
    f.forwardUntil net r stop = f.forwardUntil net r' stop := by
  have hprepare : f.prepare r = f.prepare r' := prepare_congr h
  have hstart : f.startEvent r = f.startEvent r' := by
    unfold startEvent Inbound.hasBody
    rw [h.method, h.path, h.query, h.body, h.headers "authorization" (by decide)]
  have hbody : f.bodyLog r = f.bodyLog r' := by
    unfold bodyLog
    rw [hprepare, h.body, h.isBase64Encoded, h.headers "content-type" (by decide)]
  have hattempt : f.attempt net r = f.attempt net r' := by
    unfold attempt
    rw [hprepare]
  have hfinish : ∀ result, f.finish r result = f.finish r' result := by
    intro result
    unfold finish successRecord failureRecord
    rw [h.method, h.path]
  unfold forwardUntil
  simp only [hstart, hbody, hattempt, hfinish]

theorem sent_named (f : Forwarder) (net : Network) (r : Inbound) :
    ∀ s ∈ (f.forward net r).2.sent, ∀ x ∈ s.headers, Ascii.lower x.1 ∈ Client.wireNames := by
  intro s hs
  rw [forward_sent] at hs
  cases hout : f.prepare r with
  | error e => simp [hout] at hs
  | ok out =>
    rw [hout] at hs
    have hselected := (Headers.select_ok (prepare_ok hout).2.1).2
    refine Client.follow_named f.client net _ _ (Client.firstHop_hasNames fun x hx => ?_) s hs
    exact (Headers.mem_found (hselected ▸ hx)).1

/-- Default deny: three headers are looked up, checked in order and passed on as they are; nothing
else of the inbound headers has any effect, and no other names are sent. -/
theorem headers_default_deny (f : Forwarder) (net : Network) (r : Inbound) :
    ((∃ hs, Headers.select r = .ok hs) ↔
      ∀ name ∈ ["authorization", "content-type", "accept"], Headers.Sendable r name) ∧
    (∀ e, Headers.select r = .error e →
      ∃ front name back, ["authorization", "content-type", "accept"] = front ++ name :: back ∧
        (∀ n ∈ front, Headers.Sendable r n) ∧ ¬Headers.Sendable r name ∧
        e = .invalidHeaderValue name ∧ (Fault.refused e).kind = "resolution") ∧
    (∀ hs, Headers.select r = .ok hs →
      (∀ name, hs.values name =
        if name ∈ ["authorization", "content-type", "accept"] then
          ((r.header? name).map Utf8.encode).toList else []) ∧
      ∀ x ∈ hs, 13 ∉ x.2 ∧ 10 ∉ x.2 ∧ 0 ∉ x.2) ∧
    (∀ r', r.Agrees r' →
      f.prepare r = f.prepare r' ∧ f.forward net r = f.forward net r' ∧
      ∀ stop, f.forwardUntil net r stop = f.forwardUntil net r' stop) ∧
    ∀ s ∈ (f.forward net r).2.sent, ∀ x ∈ s.headers,
      Ascii.lower x.1 ∈ ["host", "accept", "authorization", "content-type", "content-length",
        "user-agent", "referer"] := by
  refine ⟨Headers.select_eq_ok_iff r, fun e he => ?_, fun hs h => ⟨fun name => ?_, fun x hx => ?_⟩,
    fun r' h => ?_, sent_named f net r⟩
  · obtain ⟨front, name, back, hnames, hfront, hbad, rfl⟩ := Headers.select_error he
    exact ⟨front, name, back, hnames, hfront, hbad, rfl, rfl⟩
  · rw [(Headers.select_ok h).2]
    exact Headers.values_found r (by decide) name
  · obtain ⟨hall, rfl⟩ := Headers.select_ok h
    obtain ⟨hname, value, hvalue, hbytes⟩ := Headers.mem_found hx
    have hsend := hall x.1 hname value hvalue
    rw [hbytes]
    -- a control character would have been refused
    refine ⟨fun hb => ?_, fun hb => ?_, fun hb => ?_⟩
    · exact absurd (hsend 13 hb) (by decide)
    · exact absurd (hsend 10 hb) (by decide)
    · exact absurd (hsend 0 hb) (by decide)
  · exact ⟨prepare_congr h, forwardUntil_congr h net .never, forwardUntil_congr h net⟩

/-- A cookie, and a second spelling of a name: no server can tell that they were there. -/
theorem headers_default_deny_cookie :
    let f : Forwarder := ⟨⟨⟨"http", some { host := .domain "origin.example" }, .segments [""], none, none⟩,
      ["/api"]⟩, {}, true⟩
    let net := Network.scripted [.answer 303 [("location", Utf8.encode "/next")] (.ok [])]
    let r : Inbound :=
      { method := .post
        path := "/api/x"
        headers := .ofList [("Accept", "a/b"), ("Cookie", "k=v"), ("accept", "c/d")]
        body := some "[1]" }
    let r' : Inbound := { r with headers := .ofList [("ACCEPT", "a/b")] }
    r ≠ r' ∧ r.Agrees r' ∧ (∀ name ∈ Headers.forwarded, Headers.Sendable r name) ∧
      (∃ hs, Headers.select r = .ok hs ∧ hs.values "accept" = [Utf8.encode "a/b"] ∧
        hs.values "cookie" = []) ∧
      f.forward net r = f.forward net r' := by
  intro f net r r'
  have hagrees : r.Agrees r' := ⟨rfl, rfl, rfl, rfl, rfl, by decide +kernel⟩
  obtain ⟨hiff, -, hvalues, htwo, -⟩ := headers_default_deny f net r
  have hselect : Headers.select r = .ok [("accept", Utf8.encode "a/b")] := by decide +kernel
  have haccept := (hvalues _ hselect).1 "accept"
  have hcookie := (hvalues _ hselect).1 "cookie"
  refine ⟨by decide +kernel, hagrees, hiff.1 ⟨_, hselect⟩, ⟨_, hselect, ?_, hcookie⟩, (htwo r' hagrees).2.1⟩
  rw [haccept]
  decide +kernel

end Forwarder

end Relay
