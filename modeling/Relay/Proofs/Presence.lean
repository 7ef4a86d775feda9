import Relay.Proofs.Body
import Relay.Proofs.Correlation
import Relay.Proofs.Discretion

/-!
What the log says is there. The event with which forwarding starts holds a flag for the query, for the
credentials and for the body, each read off the inbound request; the outbound request is put together by
other functions, each with its own notion of what is empty. The flags agree with what goes out.
-/

namespace Relay

/-! ### Texts that are written of JSON -/

namespace Json

theorem positional_ne_nil (digits : List Char) (exponent : Int) :
    Binary64.positional digits exponent ≠ [] := by
  unfold Binary64.positional
  split <;> simp

theorem floatText_ne_nil (x : Binary64) : (floatText x).toList ≠ [] := by
  unfold floatText
  dsimp only
  split
  · unfold Binary64.plainText
    rw [String.toList_ofList]
    exact List.append_ne_nil_of_right_ne_nil _ (positional_ne_nil _ _)
  · rw [String.toList_ofList]
    simp

theorem compactChars_ne_nil (v : Json) : compactChars v ≠ [] := by
  cases v with
  | null => decide
  | bool b => cases b <;> decide
  | number n =>
    cases n with
    | integer n =>
      obtain ⟨c, cs, hchars, -⟩ := integerChars_start n
      show integerChars n ≠ []
      rw [hchars]
      exact List.cons_ne_nil c cs
    | float x => exact floatText_ne_nil x
  | string s => exact List.cons_ne_nil _ _
  | array items => exact List.cons_ne_nil _ _
  | object members => exact List.cons_ne_nil _ _

end Json

/-! ### The query -/

theorem Url.isSome_setQuery (u : Url) (query : Option String) :
    (u.setQuery query).query.isSome = query.isSome := by
  show (query.map _).isSome = _
  rw [Option.isSome_map]

theorem Target.resolve_isSome_query {t : Target} {path : String} {query : TextMap} {u : Url}
    (h : t.resolve path query = .ok u) : u.query.isSome = !query.isEmpty := by
  have hserialize : (Query.serialize query).isSome = !query.isEmpty := by
    unfold Query.serialize
    by_cases hempty : query.isEmpty = true
    · rw [if_pos hempty, hempty]
      rfl
    · rw [if_neg hempty, Bool.eq_false_of_not_eq_true hempty]
      rfl
  rcases t.resolve_query path query query with ⟨e, he, -⟩ | ⟨v, hv, -⟩
  · rw [he] at h
    cases h
  · rw [hv] at h
    rw [← Except.ok.inj h, Url.isSome_setQuery, hserialize]

/-! ### The headers -/

namespace Headers

variable {r : Inbound} {hs : Http.Headers} {name : String}

theorem select_values (h : select r = .ok hs) (hname : name ∈ forwarded) :
    hs.values name = ((r.header? name).map Utf8.encode).toList := by
  rw [(select_ok h).2, values_found r (by decide), if_pos hname]

theorem select_contains (h : select r = .ok hs) (hname : name ∈ forwarded) :
    hs.contains name = (r.header? name).isSome := by
  rw [Http.Headers.contains_eq, select_values h hname]
  cases r.header? name <;> rfl

end Headers

/-! ### The body -/

namespace Outbound.Body

variable {encoded : Bool} {contentType : Option String} {body : Option String} {result : Body}

/-- A body is empty only if none came: neither decoding nor parsing makes one empty. -/
theorem Found.hasBody_eq {r : Inbound} (h : Found encoded contentType r.body result) :
    r.hasBody = !result.isEmpty := by
  unfold Inbound.hasBody
  generalize r.body = body at h
  cases h with
  | absent => rfl
  | blank => rfl
  | parsed hne | unparsed hne | decoded hne | undecoded hne | plain hne => exact decide_eq_true hne

theorem Found.bytes_eq_nil_iff (h : Found encoded contentType body result) :
    result.bytes = [] ↔ result.isEmpty = true := by
  cases h with
  | absent => exact iff_of_true rfl rfl
  | blank => exact iff_of_true rfl rfl
  | @parsed text value =>
    -- whatever the value is, something is written of it
    have hwritten : value.compact ≠ "" := by
      intro hempty
      exact Json.compactChars_ne_nil value (String.ofList_eq_empty_iff.1 hempty)
    exact iff_of_false (Utf8.encode_ne_nil hwritten) Bool.false_ne_true
  | unparsed hne | undecoded hne | plain hne =>
    exact iff_of_false (Utf8.encode_ne_nil hne) Bool.false_ne_true
  | decoded hne =>
    refine iff_of_false ?_ Bool.false_ne_true
    rintro rfl
    exact hne rfl

theorem Found.isJsonType {value : Json} (h : Found encoded contentType body (.json value)) :
    isJsonType contentType = true := by
  cases h with
  | parsed hne hjson => exact hjson

end Outbound.Body

namespace Forwarder

/-- The first event of a request that can be prepared tells the truth about what goes out, whenever the
request is given up: there is a query, an authorization and a body exactly if its flags say so, and a
body has bytes. JSON goes out only under a content type that says so. -/
theorem startEvent_truthful {f : Forwarder} {r : Inbound} {out : Outbound} (h : f.prepare r = .ok out)
    (net : Network) (stop : Stop) :
    ∃ e more, (f.forwardUntil net r stop).2.logs = e :: more ∧ e.message = "Proxying request" ∧
      e.fields.lookup "has_query" = some (.flag out.url.query.isSome) ∧
      e.fields.lookup "has_authorization" = some (.flag (out.headers.contains "authorization")) ∧
      e.fields.lookup "has_body" = some (.flag (!out.body.isEmpty)) ∧
      (out.body.bytes = [] ↔ out.body.isEmpty = true) ∧
      ∀ value, out.body = .json value → ∃ text, out.headers.values "content-type" = [Utf8.encode text] ∧
        Outbound.Body.isJsonType (some text) = true := by
  obtain ⟨hurl, hheaders, -, hbody⟩ := prepare_ok h
  obtain ⟨debugging, -, hlogs, -⟩ := f.forwardUntil_record net r stop
  have hfound := Outbound.Body.normalize_found r.body r.isBase64Encoded (r.header? "content-type")
  rw [← hbody] at hfound
  refine ⟨f.startEvent r, _, hlogs, rfl, ?_, ?_, ?_, hfound.bytes_eq_nil_iff, ?_⟩
  · rw [Target.resolve_isSome_query hurl]
    rfl
  · rw [Headers.select_contains hheaders (by decide)]
    rfl
  · rw [← hfound.hasBody_eq]
    rfl
  · -- the type that the body was read under is among the headers that are passed on
    intro value hvalue
    rw [hvalue] at hfound
    have hjson := hfound.isJsonType
    cases htext : r.header? "content-type" with
    | none =>
      rw [htext] at hjson
      cases hjson
    | some text =>
      rw [htext] at hjson
      refine ⟨text, ?_, hjson⟩
      rw [Headers.select_values hheaders (by decide), htext]
      rfl

/-- Text behind a question mark in the path, names in other spellings, and an array in Base64: there is an
authorization and a body, and no query. -/
theorem startEvent_truthful_spelled :
    let c : Config := { origin := { origin := "http://origin.example" } }
    let f : Forwarder := ⟨⟨⟨"http", some { host := .domain "origin.example" }, .segments [""], none, none⟩,
      c.origin.mountPrefixes⟩, {}, false⟩
    let r : Inbound :=
      { method := .post
        path := "/api/x?a=b"
        headers := .ofList [("AUTHORIZATION", "Bearer t"), ("Content-Type", "Application/JSON; q=\"é\"")]
        body := some "WzFd"
        isBase64Encoded := true }
    c.validate = .ok c ∧ ofConfig c.origin = .ok f ∧ ∃ out e more, f.prepare r = .ok out ∧
      (f.forwardUntil (Network.scripted []) r .never).2.logs = e :: more ∧
      e.fields.lookup "has_query" = some (.flag false) ∧ out.url.query = none ∧
      e.fields.lookup "has_authorization" = some (.flag true) ∧
      out.headers.values "authorization" = [Utf8.encode "Bearer t"] ∧
      e.fields.lookup "has_body" = some (.flag true) ∧ out.body.bytes ≠ [] ∧
      ∃ text, out.headers.values "content-type" = [Utf8.encode text] ∧
        Outbound.Body.isJsonType (some text) = true := by
  intro c f r
  let url : Url := ⟨"http", some { host := .domain "origin.example" }, .segments ["x"], none, none⟩
  let headers : Http.Headers :=
    [("authorization", Utf8.encode "Bearer t"), ("content-type", Utf8.encode "Application/JSON; q=\"é\"")]
  have hbody : Outbound.Body.normalize (some "WzFd") true (some "Application/JSON; q=\"é\"") =
      .json (.array [.number (.integer 1)]) := by
    have hencoded : "WzFd" = Base64.encode (Utf8.encode "[1]") := by decide +kernel
    have hparse : Json.parse "[1]" = .ok (.array [.number (.integer 1)]) := by rfl
    rw [hencoded, (Outbound.Body.normalize_encode_iff "[1]" _).2 (.inr (.inr ⟨_, hparse⟩))]
    exact Outbound.Body.normalize_parsed (by decide) (by decide +kernel) hparse
  have hout : f.prepare r = .ok ⟨.post, url, headers, .json (.array [.number (.integer 1)])⟩ := by
    apply prepare_eq_ok_iff.2
    exact ⟨by decide +kernel, by decide +kernel, rfl, hbody.symm⟩
  obtain ⟨e, more, hlogs, -, hquery, hauthorization, hpresent, hempty, hjson⟩ :=
    startEvent_truthful hout (Network.scripted []) .never
  refine ⟨by decide +kernel, by decide +kernel, _, e, more, hout, hlogs, hquery, rfl, hauthorization,
    by decide +kernel, hpresent, ?_, hjson _ rfl⟩
  exact fun hnil => absurd (hempty.1 hnil) Bool.false_ne_true

end Forwarder

end Relay
