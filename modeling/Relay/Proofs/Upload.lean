import Relay.Http.Request
import Relay.Proofs.Base64
import Relay.Proofs.Forwarder

/-!
The bytes of an upload on their way to the origin server. A request is taken in as text where that is
possible and in Base64 where it is not, and its body is found anew when it is passed on. Bodies that
are not meant to be JSON come out as they went in; a body that is meant to be JSON and cannot be read
comes out unchanged only if it is text.
-/

namespace Relay

namespace Http.Request

variable {r : Request} {body : Bytes} {max : UInt64} {i : Inbound}

theorem toInbound_eq {m : Method} (hm : Method.ofName? r.method = some m) :
    r.toInbound body max =
      if body.length > max.toNat then .error .bodyTooLarge
      else .ok { method := m
                 path := r.uri.path
                 query := (r.uri.query.map Query.parse).getD .empty
                 headers := textHeaders r.headers
                 body := (bodyText body).1
                 isBase64Encoded := (bodyText body).2 } := by
  have hmethod : r.method? = .ok m := by
    unfold method?
    rw [hm]
  unfold toInbound
  rw [hmethod]
  by_cases hlength : body.length > max.toNat
  · simp only [bind, Except.bind, hlength, if_true]
    rfl
  · simp only [bind, Except.bind, hlength, if_false]
    rfl

theorem toInbound_ok (h : r.toInbound body max = .ok i) :
    Method.ofName? r.method = some i.method ∧ body.length ≤ max.toNat ∧
      i.body = (bodyText body).1 ∧ i.isBase64Encoded = (bodyText body).2 := by
  cases hm : Method.ofName? r.method with
  | none =>
    have hmethod : r.method? = .error (.unsupportedMethod r.method) := by
      unfold method?
      rw [hm]
    unfold toInbound at h
    rw [hmethod] at h
    cases h
  | some m =>
    rw [toInbound_eq hm] at h
    by_cases hlength : body.length > max.toNat
    · rw [if_pos hlength] at h
      cases h
    · rw [if_neg hlength] at h
      rw [← Except.ok.inj h]
      exact ⟨rfl, Nat.le_of_not_lt hlength, rfl, rfl⟩

theorem bodyText_nil : bodyText [] = (none, false) := rfl

theorem bodyText_of_text {text : String} (hbody : body = Utf8.encode text) (hne : body ≠ []) :
    bodyText body = (some text, false) := by
  unfold bodyText
  rw [if_neg hne, Utf8.decode?_eq_some_iff.2 hbody]

theorem bodyText_of_bytes (hbody : ¬∃ text, body = Utf8.encode text) (hne : body ≠ []) :
    bodyText body = (some (Base64.encode body), true) := by
  unfold bodyText
  rw [if_neg hne, Utf8.decode?_eq_none_iff.2 hbody]

end Http.Request

/-! ### Bodies as they are sent -/

namespace Outbound.Body

variable {body : Bytes} {contentType : Option String}

def IsJson (body : Bytes) : Prop := ∃ text value, body = Utf8.encode text ∧ Json.parse text = .ok value

theorem ne_empty_of_encode {text : String} (hbody : body = Utf8.encode text) (hne : body ≠ []) :
    text ≠ "" := by
  rintro rfl
  exact hne hbody

theorem encode_ne_empty (hne : body ≠ []) : Base64.encode body ≠ "" := by
  intro hempty
  have hdecoded := Base64.decodeText_encode body
  rw [hempty] at hdecoded
  exact hne (Except.ok.inj hdecoded).symm

theorem normalize_plain (hplain : isJsonType contentType = false) :
    normalize (Http.Request.bodyText body).1 (Http.Request.bodyText body).2 contentType =
      if body = [] then .empty else .raw body := by
  by_cases hne : body = []
  · rw [if_pos hne, hne, Http.Request.bodyText_nil]
    rfl
  rw [if_neg hne]
  by_cases htext : ∃ text, body = Utf8.encode text
  · obtain ⟨text, hbody⟩ := htext
    rw [Http.Request.bodyText_of_text hbody hne]
    simp only [normalize, if_neg (ne_empty_of_encode hbody hne), hplain, Bool.false_eq_true, if_false,
      ← hbody]
  · rw [Http.Request.bodyText_of_bytes htext hne]
    simp only [normalize, if_neg (encode_ne_empty hne), hplain, Bool.false_eq_true, if_false, if_true,
      Base64.decodeText_encode]

theorem parseJson?_text {text : String} (hbody : body = Utf8.encode text) (hbad : ¬IsJson body) :
    parseJson? text false = none := by
  unfold parseJson?
  cases hparse : Json.parse text with
  | ok value => exact absurd ⟨text, value, hbody, hparse⟩ hbad
  | error e => rfl

theorem parseJson?_bytes (hbody : ¬∃ text, body = Utf8.encode text) :
    parseJson? (Base64.encode body) true = none := by
  simp only [parseJson?, if_true, Base64.decodeText_encode, Utf8.decode?_eq_none_iff.2 hbody,
    Option.bind_none]

/-- The bytes in the form in which they are taken in: as they are if they are text, and in Base64 if
they are not. -/
def takenIn (body : Bytes) : Bytes :=
  if (Utf8.decode? body).isSome then body else Utf8.encode (Base64.encode body)

theorem takenIn_eq_self_iff : takenIn body = body ↔ ∃ text, body = Utf8.encode text := by
  unfold takenIn
  constructor
  · intro h
    by_cases htext : (Utf8.decode? body).isSome = true
    · obtain ⟨text, hbody⟩ := Option.isSome_iff_exists.1 htext
      exact ⟨text, Utf8.decode?_eq_some_iff.1 hbody⟩
    · -- the Base64 form is text, so bytes that equal it would be text as well
      rw [if_neg htext] at h
      exact ⟨_, h.symm⟩
  · rintro ⟨text, hbody⟩
    rw [if_pos]
    rw [Utf8.decode?_eq_some_iff.2 hbody]
    rfl

theorem normalize_unparseable (hjson : isJsonType contentType = true) (hne : body ≠ [])
    (hbad : ¬IsJson body) :
    normalize (Http.Request.bodyText body).1 (Http.Request.bodyText body).2 contentType =
      .raw (takenIn body) := by
  by_cases htext : ∃ text, body = Utf8.encode text
  · rw [takenIn_eq_self_iff.2 htext]
    obtain ⟨text, hbody⟩ := htext
    rw [Http.Request.bodyText_of_text hbody hne]
    simp only [normalize, if_neg (ne_empty_of_encode hbody hne), hjson, if_true,
      parseJson?_text hbody hbad, ← hbody]
  · rw [Http.Request.bodyText_of_bytes htext hne]
    simp only [normalize, if_neg (encode_ne_empty hne), hjson, if_true, parseJson?_bytes htext,
      takenIn, Utf8.decode?_eq_none_iff.2 htext, Option.isSome_none, Bool.false_eq_true, if_false]

end Outbound.Body

/-! ### Uploads -/

namespace Forwarder

open Outbound.Body (isJsonType IsJson)

section

variable (f : Forwarder) {r : Http.Request} {m : Method} {max : UInt64} {body : Bytes} {i : Inbound}

/-- An upload that is not meant to be JSON. It is taken in exactly if it is no longer than allowed,
and then nothing but its path and its headers can keep it from being passed on byte for byte. -/
theorem prepare_plain_upload (hm : Method.ofName? r.method = some m) (max : UInt64) (body : Bytes) :
    ((∃ i, r.toInbound body max = .ok i) ↔ body.length ≤ max.toNat) ∧
    (max.toNat < body.length → r.toInbound body max = .error .bodyTooLarge) ∧
    ∀ i, r.toInbound body max = .ok i → isJsonType (i.header? "content-type") = false →
      ∀ out, f.prepare i = .ok out ↔
        f.target.resolve i.path i.query = .ok out.url ∧ Headers.select i = .ok out.headers ∧
          out.method = m ∧ out.body = if body = [] then .empty else .raw body := by
  refine ⟨⟨?_, ?_⟩, ?_, ?_⟩
  · rintro ⟨i, hi⟩
    exact (Http.Request.toInbound_ok hi).2.1
  · intro hlength
    rw [Http.Request.toInbound_eq hm, if_neg (by omega)]
    exact ⟨_, rfl⟩
  · intro hlength
    rw [Http.Request.toInbound_eq hm, if_pos hlength]
  · intro i hi hplain out
    obtain ⟨hmethod, -, hbody, hencoded⟩ := Http.Request.toInbound_ok hi
    obtain rfl : m = i.method := Option.some.inj (hm.symm.trans hmethod)
    rw [prepare_eq_ok_iff, hbody, hencoded, Outbound.Body.normalize_plain hplain]

/-- Three bytes that are no text, at the limit and under a media type that is spelled oddly. -/
theorem prepare_plain_upload_binary :
    let f : Forwarder := ⟨⟨⟨"http", some { host := .domain "origin.example" }, .segments [""], none, none⟩,
      ["/api"]⟩, {}, false⟩
    let r : Http.Request := ⟨"pUt", ⟨"/api/x", none⟩,
      [("content-type", Utf8.encode " Application/JSONP ; charset=utf-8")], .complete [255, 0, 254]⟩
    Method.ofName? r.method = some .put ∧ r.toInbound [255, 0, 254] 2 = .error .bodyTooLarge ∧
      ∃ i out, r.toInbound [255, 0, 254] 3 = .ok i ∧ isJsonType (i.header? "content-type") = false ∧
        f.prepare i = .ok out ∧ out.body = .raw [255, 0, 254] := by
  intro f r
  have hm : Method.ofName? r.method = some .put := by decide +kernel
  obtain ⟨hshort, -, hupload⟩ := prepare_plain_upload f hm 3 [255, 0, 254]
  have hlong := (prepare_plain_upload f hm 2 [255, 0, 254]).2.1 (by decide)
  obtain ⟨i, hi⟩ := hshort.2 (by decide)
  have heq : i = { method := .put, path := "/api/x",
                   headers := Http.Request.textHeaders r.headers,
                   body := some "/wD+", isBase64Encoded := true } := by
    apply Except.ok.inj
    rw [← hi]
    decide +kernel
  have hplain : isJsonType (i.header? "content-type") = false := by
    rw [heq]
    decide +kernel
  have hresolve : f.target.resolve i.path i.query = .ok ⟨"http",
      some { host := .domain "origin.example" }, .segments ["x"], none, none⟩ := by
    rw [heq]
    decide +kernel
  have hselect : Headers.select i =
      .ok [("content-type", Utf8.encode " Application/JSONP ; charset=utf-8")] := by
    rw [heq]
    decide +kernel
  exact ⟨hm, hlong, i, ⟨.put, _, _, .raw [255, 0, 254]⟩, hi, hplain,
    (hupload i hi hplain _).2 ⟨hresolve, hselect, rfl, rfl⟩, rfl⟩

/-- An upload that is meant to be JSON and is none. It comes out byte for byte if it is text; what is
no text comes out in Base64, a form that the client never sent. -/
theorem prepare_unparseable_upload (hi : r.toInbound body max = .ok i)
    (hjson : isJsonType (i.header? "content-type") = true) (hne : body ≠ []) (hbad : ¬IsJson body) :
    (∀ out, f.prepare i = .ok out ↔
      f.target.resolve i.path i.query = .ok out.url ∧ Headers.select i = .ok out.headers ∧
        out.method = i.method ∧ out.body = .raw (if (Utf8.decode? body).isSome then body
          else Utf8.encode (Base64.encode body))) ∧
    ∀ out, f.prepare i = .ok out → (out.body = .raw body ↔ ∃ text, body = Utf8.encode text) := by
  obtain ⟨-, -, hbody, hencoded⟩ := Http.Request.toInbound_ok hi
  have hnormal := Outbound.Body.normalize_unparseable hjson hne hbad
  rw [← hbody, ← hencoded] at hnormal
  constructor
  · intro out
    rw [prepare_eq_ok_iff, hnormal]
    rfl
  · intro out hout
    rw [(prepare_ok hout).2.2.2, hnormal, Outbound.Body.raw.injEq]
    exact Outbound.Body.takenIn_eq_self_iff

/-- One byte that starts no character: four others are sent in its place. -/
theorem prepare_unparseable_upload_binary :
    let f : Forwarder := ⟨⟨⟨"http", some { host := .domain "origin.example" }, .segments [""], none, none⟩,
      ["/api"]⟩, {}, false⟩
    let r : Http.Request := ⟨"POST", ⟨"/api/x", none⟩,
      [("content-type", Utf8.encode "application/json")], .complete [255]⟩
    let i : Inbound :=
      { method := .post, path := "/api/x", headers := Http.Request.textHeaders r.headers,
        body := some "/w==", isBase64Encoded := true }
    r.toInbound [255] 1024 = .ok i ∧ isJsonType (i.header? "content-type") = true ∧ ¬IsJson [255] ∧
      ∃ out, f.prepare i = .ok out ∧ out.body = .raw (Utf8.encode "/w==") ∧ out.body ≠ .raw [255] := by
  intro f r i
  have hi : r.toInbound [255] 1024 = .ok i := by decide +kernel
  have hjson : isJsonType (i.header? "content-type") = true := by decide +kernel
  have hnone : ¬∃ text, ([255] : Bytes) = Utf8.encode text :=
    Utf8.decode?_eq_none_iff.1 (by decide +kernel)
  have hbad : ¬IsJson [255] := by
    rintro ⟨text, value, hbody, -⟩
    exact hnone ⟨text, hbody⟩
  have hresolve : f.target.resolve i.path i.query = .ok ⟨"http",
      some { host := .domain "origin.example" }, .segments ["x"], none, none⟩ := by decide +kernel
  have hselect : Headers.select i = .ok [("content-type", Utf8.encode "application/json")] := by
    decide +kernel
  have hsent : (if (Utf8.decode? [255]).isSome then [255] else Utf8.encode (Base64.encode [255])) =
      Utf8.encode "/w==" := by decide +kernel
  obtain ⟨hprepare, hiff⟩ := prepare_unparseable_upload f hi hjson (by simp) hbad
  have hout := (hprepare ⟨.post, _, _, .raw (Utf8.encode "/w==")⟩).2
    ⟨hresolve, hselect, rfl, by rw [hsent]⟩
  exact ⟨hi, hjson, hbad, _, hout, rfl, fun h => hnone ((hiff _ hout).1 h)⟩

end

end Forwarder

end Relay
