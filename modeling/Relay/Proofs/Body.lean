import Relay.Proofs.Dispatch
import Relay.Proofs.JsonValue
import Relay.Proofs.Upload

/-!
Outbound bodies and the bodies they were found from. Whether a body came as text or in Base64 makes no
difference, unless it is meant to be JSON and cannot be read, and the body that came can be told from the
one that is sent. JSON that is sent is found again as the same JSON, if it holds no float.
-/

namespace Relay.Outbound.Body

/-- How the body to send is found, by what decides it. -/
inductive Found (encoded : Bool) (contentType : Option String) : Option String → Body → Prop
  | absent : Found encoded contentType none .empty
  | blank : Found encoded contentType (some "") .empty
  | parsed {text : String} {value : Json} (hne : text ≠ "") (hjson : isJsonType contentType = true)
    (hparse : parseJson? text encoded = some value) : Found encoded contentType (some text) (.json value)
  | unparsed {text : String} (hne : text ≠ "") (hjson : isJsonType contentType = true)
    (hparse : parseJson? text encoded = none) :
    Found encoded contentType (some text) (.raw (Utf8.encode text))
  | decoded {bytes : Bytes} (hne : Base64.encode bytes ≠ "") (hplain : isJsonType contentType = false)
    (hflag : encoded = true) : Found encoded contentType (some (Base64.encode bytes)) (.raw bytes)
  | undecoded {text : String} (hne : text ≠ "") (hplain : isJsonType contentType = false)
    (hflag : encoded = true) (hother : ∀ bytes, text ≠ Base64.encode bytes) :
    Found encoded contentType (some text) (.raw (Utf8.encode text))
  | plain {text : String} (hne : text ≠ "") (hplain : isJsonType contentType = false)
    (hflag : encoded = false) : Found encoded contentType (some text) (.raw (Utf8.encode text))

theorem normalize_found (body : Option String) (encoded : Bool) (contentType : Option String) :
    Found encoded contentType body (normalize body encoded contentType) := by
  unfold normalize
  split
  · exact .absent
  rename_i text
  split
  · rename_i hblank
    exact hblank ▸ .blank
  rename_i hne
  split
  · rename_i hjson
    split
    · exact .parsed hne hjson ‹_›
    · exact .unparsed hne hjson ‹_›
  rename_i hplain
  rw [Bool.not_eq_true] at hplain
  split
  · rename_i hflag
    split
    · rename_i bytes hdecoded
      obtain rfl := Base64.decodeText_eq_ok_iff.1 hdecoded
      exact .decoded hne hplain hflag
    · rename_i e hfailed
      refine .undecoded hne hplain hflag fun bytes hbytes => ?_
      rw [Base64.decodeText_eq_ok_iff.2 hbytes] at hfailed
      cases hfailed
  · rename_i hflag
    exact .plain hne hplain (Bool.not_eq_true _ ▸ hflag)

/-! ### Text and its encoded form -/

theorem parseJson?_encode (text : String) :
    parseJson? (Base64.encode (Utf8.encode text)) true = parseJson? text false := by
  simp only [parseJson?, if_true, Base64.decodeText_encode, Utf8.decode?_encode, Option.bind_some,
    Bool.false_eq_true, if_false]

theorem encode_ne_self {text : String} (h : text ≠ "") : Base64.encode (Utf8.encode text) ≠ text := by
  intro heq
  have hbytes : Utf8.encode text ≠ [] := Utf8.encode_ne_nil h
  have hlength := Base64.length_lt_writtenBytes hbytes
  rw [← Base64.utf8_encode, heq] at hlength
  omega

/-- A text and its encoded form are sent alike unless they are meant to be JSON and are none: then each is
sent as it came. -/
theorem normalize_encode_iff (text : String) (contentType : Option String) :
    normalize (some (Base64.encode (Utf8.encode text))) true contentType =
        normalize (some text) false contentType ↔
      isJsonType contentType = false ∨ text = "" ∨ ∃ value, Json.parse text = .ok value := by
  by_cases hblank : text = ""
  · subst hblank
    exact iff_of_true rfl (.inr (.inl rfl))
  have hencoded := encode_ne_empty (Utf8.encode_ne_nil hblank)
  unfold normalize
  simp only [if_neg hblank, if_neg hencoded, parseJson?_encode, Base64.decodeText_encode]
  by_cases hjson : isJsonType contentType = true
  · simp only [hjson, if_true]
    have hparse : parseJson? text false = (Json.parse text).toOption := rfl
    cases hvalue : Json.parse text with
    | ok value =>
      rw [hparse, hvalue]
      exact iff_of_true rfl (.inr (.inr ⟨value, rfl⟩))
    | error e =>
      rw [hparse, hvalue]
      refine iff_of_false ?_ (by simp [hblank])
      intro hsame
      exact encode_ne_self hblank (Utf8.encode_injective (Body.raw.inj hsame))
  · rw [Bool.not_eq_true] at hjson
    refine iff_of_true ?_ (.inl hjson)
    simp only [hjson, Bool.false_eq_true, if_false, if_true]

/-- Text and its encoded form agree wherever they can, and no body is lost: nothing is sent only if nothing
came, the bytes that are sent give the text that came, and JSON is written only where JSON is meant. -/
theorem normalize_keeps_body :
    (∀ text contentType, normalize (some (Base64.encode (Utf8.encode text))) true contentType =
        normalize (some text) false contentType ↔
      isJsonType contentType = false ∨ text = "" ∨ ∃ value, Json.parse text = .ok value) ∧
    ∀ body encoded contentType,
      (normalize body encoded contentType = .empty ↔ body = none ∨ body = some "") ∧
      (∀ bytes, normalize body encoded contentType = .raw bytes → bytes ≠ [] ∧ ∃ text, body = some text ∧
        (bytes = Utf8.encode text ∨
          encoded = true ∧ isJsonType contentType = false ∧ Base64.encode bytes = text)) ∧
      ∀ value, normalize body encoded contentType = .json value → isJsonType contentType = true := by
  refine ⟨normalize_encode_iff, fun body encoded contentType => ?_⟩
  have hfound := normalize_found body encoded contentType
  generalize normalize body encoded contentType = result at hfound
  refine ⟨?_, ?_, ?_⟩
  · cases hfound with
    | absent => exact iff_of_true rfl (.inl rfl)
    | blank => exact iff_of_true rfl (.inr rfl)
    | parsed hne | unparsed hne | decoded hne | undecoded hne | plain hne =>
      exact iff_of_false (fun h => nomatch h) (by simpa using hne)
  · rintro bytes rfl
    cases hfound with
    | unparsed hne | undecoded hne | plain hne => exact ⟨Utf8.encode_ne_nil hne, _, rfl, .inl rfl⟩
    | decoded hne hplain hflag =>
      refine ⟨?_, _, rfl, .inr ⟨hflag, hplain, rfl⟩⟩
      rintro rfl
      exact hne rfl
  · rintro value rfl
    cases hfound with
    | parsed hne hjson => exact hjson

/-- An encoded array, three bytes that are no text, and a text with set bits beyond its last byte. -/
theorem normalize_keeps_body_padded :
    let json := some "Application/JSON; charset=utf-8"
    let image := some "image/png"
    normalize (some (Base64.encode (Utf8.encode "[1]"))) true json = normalize (some "[1]") false json ∧
    normalize (some "/wD+") true image = .raw [255, 0, 254] ∧ Base64.encode [255, 0, 254] = "/wD+" ∧
    normalize (some "/x==") true image = .raw (Utf8.encode "/x==") ∧ Utf8.encode "/x==" ≠ [] ∧
    ∃ value, normalize (some "[1]") false json = .json value ∧ isJsonType json = true := by
  intro json image
  obtain ⟨hagree, hbody⟩ := normalize_keeps_body
  have hparse : Json.parse "[1]" = .ok (.array [.number (.integer 1)]) := by rfl
  have himage : normalize (some "/wD+") true image = .raw [255, 0, 254] := by rfl
  have hstray : normalize (some "/x==") true image = .raw (Utf8.encode "/x==") := by rfl
  have hvalue : normalize (some "[1]") false json = .json (.array [.number (.integer 1)]) := by rfl
  obtain ⟨-, text, htext, hsent⟩ := (hbody _ _ _).2.1 _ himage
  refine ⟨(hagree "[1]" json).2 (.inr (.inr ⟨_, hparse⟩)), himage, ?_, hstray,
    ((hbody _ _ _).2.1 _ hstray).1, _, hvalue, (hbody _ _ _).2.2 _ hvalue⟩
  obtain rfl := Option.some.inj htext
  rcases hsent with hplain | ⟨-, -, hsame⟩
  · exact absurd hplain (by decide +kernel)
  · exact hsame

/-! ### JSON that is sent -/

variable {body : Option String} {encoded : Bool} {contentType : Option String} {value : Json}

theorem parseJson?_eq_some {text : String} (h : parseJson? text encoded = some value) :
    ∃ plain, Json.parse plain = .ok value := by
  have hread : ∀ plain, (Json.parse plain).toOption = some value → Json.parse plain = .ok value := by
    intro plain hplain
    cases hparse : Json.parse plain with
    | ok v =>
      rw [hparse] at hplain
      exact congrArg Except.ok (Option.some.inj hplain)
    | error e =>
      rw [hparse] at hplain
      cases hplain
  unfold parseJson? at h
  split at h
  · split at h
    · obtain ⟨plain, -, hplain⟩ := Option.bind_eq_some_iff.1 h
      exact ⟨plain, hread plain hplain⟩
    · cases h
  · exact ⟨text, hread text h⟩

theorem normalize_fits (h : normalize body encoded contentType = .json value) :
    value.Fits Json.maxDepth := by
  have hfound := normalize_found body encoded contentType
  rw [h] at hfound
  cases hfound with
  | parsed hne hjson hparse =>
    obtain ⟨plain, hplain⟩ := parseJson?_eq_some hparse
    exact Json.parse_fits hplain

theorem compact_ne_empty (h : value.Exact) : value.compact ≠ "" := by
  obtain ⟨c, cs, hchars, -⟩ := h.starts
  intro hempty
  have hnil : Json.compactChars value = [] := String.ofList_eq_empty_iff.1 hempty
  rw [hchars] at hnil
  cases hnil

theorem normalize_parsed {text : String} (hne : text ≠ "") (hjson : isJsonType contentType = true)
    (hparse : Json.parse text = .ok value) : normalize (some text) false contentType = .json value := by
  have hvalue : parseJson? text false = some value := by
    show (Json.parse text).toOption = some value
    rw [hparse]
    rfl
  unfold normalize
  simp only [if_neg hne, hjson, if_true, hvalue]

/-- JSON that was found is found again from what is sent of it, as text, in Base64, and in the form in
which a second relay takes in the bytes of the first request. -/
theorem normalize_again (h : normalize body encoded contentType = .json value) (hexact : value.Exact) :
    ∀ second, isJsonType second = true →
      normalize (some value.compact) false second = .json value ∧
      normalize (some (Base64.encode (Utf8.encode value.compact))) true second = .json value ∧
      ∀ (client : Client) (net : Network) (out : Outbound) (s : Sent),
        out.body = normalize body encoded contentType → ¬client.Tunnels (Client.firstHop out) →
        (client.exchange net out).1.head? = some s →
        s.body = Utf8.encode value.compact ∧
          normalize (Http.Request.bodyText s.body).1 (Http.Request.bodyText s.body).2 second =
            .json value := by
  intro second hjson
  have hparse := Json.parse_compact (normalize_fits h) hexact
  have hne := compact_ne_empty hexact
  have hplain := normalize_parsed hne hjson hparse
  refine ⟨hplain, ?_, ?_⟩
  · rw [(normalize_encode_iff value.compact second).2 (.inr (.inr ⟨value, hparse⟩))]
    exact hplain
  · intro client net out s hout htunnel hs
    have hbody : s.body = Utf8.encode value.compact := by
      rw [Forwarder.head?_exchange htunnel hs]
      show out.body.bytes = _
      rw [hout, h]
      rfl
    refine ⟨hbody, ?_⟩
    rw [Http.Request.bodyText_of_text hbody (hbody ▸ Utf8.encode_ne_nil hne)]
    exact hplain

/-- A name that stands twice, one that takes a pair of escapes, the least and the greatest integer, and a
text of what has to be escaped. -/
theorem normalize_again_escaped :
    let text := "\x7b\"a\":null,\"b\\u0000\\uD83D\\ude00\": [-9223372036854775808,18446744073709551615 , \"\\\"\\\\\\/\\n\"], \"a\":true\x7d"
    let value := Json.object [("a", .bool true), ("b\x00😀", .array [.number (.integer (-9223372036854775808)),
      .number (.integer 18446744073709551615), .string "\"\\/\n"])]
    let json := some "application/json"
    normalize (some text) false json = .json value ∧
      normalize (some value.compact) false json = .json value ∧
      normalize (some (Base64.encode (Utf8.encode value.compact))) true json = .json value ∧
      let out : Outbound := ⟨.post, ⟨"http", some { host := .domain "origin.example" }, .segments ["x"],
        none, none⟩, [], normalize (some text) false json⟩
      ∃ s, (Client.exchange {} (Network.scripted [.answer 200 [] (.ok [])]) out).1.head? = some s ∧
        normalize (Http.Request.bodyText s.body).1 (Http.Request.bodyText s.body).2 json = .json value := by
  intro text value json
  have hparse : Json.parse text = .ok value := by decide +kernel
  have hexact : value.Exact := by
    refine .object ?_
    simp only [List.forall_mem_cons]
    refine ⟨.bool true, .array ?_, by simp⟩
    simp only [List.forall_mem_cons]
    exact ⟨.integer _, .integer _, .string _, by simp⟩
  have hfound : normalize (some text) false json = .json value :=
    normalize_parsed (by decide +kernel) (by decide +kernel) hparse
  obtain ⟨hplain, hencoded, hsent⟩ := normalize_again hfound hexact json (by decide +kernel)
  refine ⟨hfound, hplain, hencoded, ?_⟩
  intro out
  have hreach : Client.Reaches (Network.scripted [.answer 200 [] (.ok [])]) (Client.firstHop out) :=
    ⟨.inl rfl, by decide +kernel, rfl⟩
  have hfirst : (Client.exchange {} (Network.scripted [.answer 200 [] (.ok [])]) out).1.head? =
      some (Client.send {} (Client.firstHop out)) := by
    unfold Client.exchange
    rw [Client.follow_reaches {} _ _ hreach (by simp [Client.Tunnels])]
    rfl
  exact ⟨_, hfirst, (hsent {} _ out _ rfl (by simp [Client.Tunnels]) hfirst).2⟩

end Relay.Outbound.Body
