import Mathlib.Logic.Relation
import Relay.Proofs.Discretion
import Relay.Proofs.Reader
import Relay.Proofs.Record

/-!
What the log says about events. The values of three fields are private. Events that are read alike leave
the same log, and an event is read alike when a private value that its field takes is exchanged for
another that takes the same space. A value that its field does not take is described in the log, and a
text that stands where a map is expected is quoted in full.
-/

namespace Relay

/-! ### Objects up to a member -/

namespace Json.Schema

variable {δ : Type} {s : Schema δ} {draft last : δ} {members : List (String × Json)} {name : String}
  {f : Field δ}

def opened (name : String) : List (String × Json) → List Char
  | [] => quoteChars name ++ [':']
  | (n, v) :: members => quoteChars n ++ ':' :: (compactChars v ++ ',' :: opened name members)

theorem opened_nil_append (name : String) (text : List Char) :
    opened name [] ++ text = '"' :: (name.toList.flatMap escapeChar ++ '"' :: ':' :: text) := by
  rw [opened, List.append_assoc, quoteChars_append]
  rfl

theorem opened_cons_append (name n : String) (v : Json) (members : List (String × Json))
    (text : List Char) :
    opened name ((n, v) :: members) ++ text =
      '"' :: (n.toList.flatMap escapeChar ++ '"' :: ':' ::
        (compactChars v ++ ',' :: (opened name members ++ text))) := by
  rw [opened, List.append_assoc, quoteChars_append, List.cons_append, List.append_assoc, List.cons_append]

theorem memberChars_opened (front back : List (String × Json)) (name : String) (v : Json) :
    memberChars (front ++ (name, v) :: back) =
      opened name front ++ (compactChars v ++ afterMember back) := by
  induction front with
  | nil =>
    rw [List.nil_append, memberChars_cons, opened, List.append_assoc]
    rfl
  | cons m front ih =>
    obtain ⟨n, w⟩ := m
    have hafter : afterMember (front ++ (name, v) :: back) =
        ',' :: memberChars (front ++ (name, v) :: back) := by
      cases front <;> rfl
    rw [List.cons_append, memberChars_cons, hafter, ih, opened]
    simp only [List.append_assoc, List.cons_append]

theorem readMoreFields_opened (hfields : ∀ f ∈ s.fields, ∀ d, Forward (f.read d))
    (h : s.Reads draft members last) (hfind : s.fields.find? (·.name == name) = some f)
    (hopen : f.isSet last = false) (text : List Char) {fuel : Nat}
    (hfuel : (opened name members ++ text).length + 1 < fuel) :
    s.readMoreFields fuel draft (',' :: (opened name members ++ text)) =
      f.read last text >>= fun p => s.readMoreFields (p.2.length + 1) p.1 p.2 := by
  -- each member uses up one round, and there is one for each character
  induction h generalizing fuel with
  | nil draft =>
    obtain ⟨k, rfl⟩ : ∃ k, fuel = k + 1 := ⟨fuel - 1, by omega⟩
    rw [opened_nil_append] at hfuel ⊢
    rw [readMoreFields]
    show (s.readField draft _ >>= fun p => s.readMoreFields k p.1 p.2) = _
    rw [readField_opened hfind hopen]
    cases hread : f.read draft text with
    | error e => rfl
    | ok p =>
      have hlength := hfields f (List.mem_of_find?_eq_some hfind) draft text p.1 p.2 hread
      simp only [List.length_cons, List.length_append] at hfuel
      exact readMoreFields_fuel hfields (by omega) (by omega)
  | @cons draft next last n v members g hg hset hread hmore ih =>
    obtain ⟨k, rfl⟩ : ∃ k, fuel = k + 1 := ⟨fuel - 1, by omega⟩
    have hmember := readField_before hg hset hread (c := ',') (by decide) (opened name members ++ text)
    rw [opened_cons_append] at hfuel ⊢
    rw [readMoreFields]
    show (s.readField draft _ >>= fun p => s.readMoreFields k p.1 p.2) = _
    rw [hmember]
    simp only [List.length_cons, List.length_append] at hfuel ih
    exact ih hopen (by omega)

theorem awaits_opened (hfields : ∀ f ∈ s.fields, ∀ d, Forward (f.read d))
    (h : s.Reads draft members last) (hfind : s.fields.find? (·.name == name) = some f)
    (hopen : f.isSet last = false) : s.Awaits draft ('\x7b' :: opened name members) f last := by
  refine ⟨_, .members, ?_⟩
  intro text
  show s.readObject draft (opened name members ++ text) = _
  cases h with
  | nil =>
    rw [opened_nil_append]
    show (s.readField draft _ >>= fun p => s.readMoreFields (p.2.length + 1) p.1 p.2) = _
    rw [readField_opened hfind hopen]
  | @cons next _ _ n v members g hg hset hread hmore =>
    have hmember := readField_before hg hset hread (c := ',') (by decide) (opened name members ++ text)
    rw [opened_cons_append]
    show (s.readField draft _ >>= fun p => s.readMoreFields (p.2.length + 1) p.1 p.2) = _
    rw [hmember]
    exact readMoreFields_opened hfields hmore hfind hopen text (by simp)

end Json.Schema

/-! ### Events -/

namespace Event

open Json (Forward SameSpace)
open Json.Schema (Alike Keeps)

theorem field_forward {α : Type} {name : String} {required : Bool} {isSet : Draft → Bool}
    {read : Json.Reader α} {put : Draft → α → Draft} (h : Forward read) (d : Draft) :
    Forward ((field name required isSet read put).read d) := by
  intro cs next rest hread
  obtain ⟨⟨v, after⟩, hv, heq⟩ := bind_eq_ok.1 hread
  obtain rfl : after = rest := (Prod.mk.inj (Except.ok.inj heq)).2
  exact h cs v after hv

theorem schema_forward : ∀ f ∈ schema.fields, ∀ d, Forward (f.read d) := by
  have hmap := Json.optional_forward Json.mapField_forward
  have htext := Json.optional_forward Json.textField_forward
  simp only [schema, List.forall_mem_cons]
  exact ⟨field_forward Json.textField_forward, field_forward Json.textField_forward, field_forward hmap,
    field_forward hmap, field_forward htext, field_forward Json.flagField_forward, by simp⟩

structure Draft.SameOutside (d d' : Draft) : Prop where
  method : d.method = d'.method
  path : d.path = d'.path
  isBase64Encoded : d.isBase64Encoded = d'.isBase64Encoded
  query : d.query.isSome = d'.query.isSome
  headers : d.headers.isSome = d'.headers.isSome
  body : d.body.isSome = d'.body.isSome

theorem field_alike {α : Type} {name : String} {required : Bool} {isSet : Draft → Bool}
    {read : Json.Reader α} {put : Draft → α → Draft} {R : Draft → Draft → Prop} {d d' : Draft}
    (hput : ∀ v, R (put d v) (put d' v)) (cs : List Char) :
    Alike R ((field name required isSet read put).read d cs)
      ((field name required isSet read put).read d' cs) := by
  show Alike R (read cs >>= fun p => pure (put d p.1, p.2)) (read cs >>= fun p => pure (put d' p.1, p.2))
  cases read cs with
  | error e => rfl
  | ok p => exact ⟨hput p.1, rfl⟩

theorem schema_keeps : schema.Keeps Draft.SameOutside := by
  constructor
  · simp only [schema, List.forall_mem_cons]
    refine ⟨?_, ?_, ?_, ?_, ?_, ?_, by simp⟩
    · exact fun d d' hd => congrArg Option.isSome hd.method
    · exact fun d d' hd => congrArg Option.isSome hd.path
    · exact fun d d' hd => hd.query
    · exact fun d d' hd => hd.headers
    · exact fun d d' hd => hd.body
    · exact fun d d' hd => congrArg Option.isSome hd.isBase64Encoded
  · simp only [schema, List.forall_mem_cons]
    refine ⟨?_, ?_, ?_, ?_, ?_, ?_, by simp⟩
    · exact fun d d' hd => field_alike fun v => { hd with method := rfl }
    · exact fun d d' hd => field_alike fun v => { hd with path := rfl }
    · exact fun d d' hd => field_alike fun v => { hd with query := rfl }
    · exact fun d d' hd => field_alike fun v => { hd with headers := rfl }
    · exact fun d d' hd => field_alike fun v => { hd with body := rfl }
    · exact fun d d' hd => field_alike fun v => { hd with isBase64Encoded := rfl }

def privateFields : List String := ["queryStringParameters", "headers", "body"]

theorem field_related {α : Type} {name : String} {required : Bool} {isSet : Draft → Bool}
    {read : Json.Reader α} {put : Draft → α → Draft} {R : Draft → Draft → Prop} {draft d d' : Draft}
    {cs cs' rest rest' : List Char} (hput : ∀ v v', R (put draft v) (put draft v'))
    (h : (field name required isSet read put).read draft cs = .ok (d, rest))
    (h' : (field name required isSet read put).read draft cs' = .ok (d', rest')) : R d d' := by
  obtain ⟨p, -, heq⟩ := bind_eq_ok.1 h
  obtain ⟨p', -, heq'⟩ := bind_eq_ok.1 h'
  rw [← (Prod.mk.inj (Except.ok.inj heq)).1, ← (Prod.mk.inj (Except.ok.inj heq')).1]
  exact hput p.1 p'.1

theorem private_sameOutside : ∀ f ∈ schema.fields, f.name ∈ privateFields →
    ∀ {draft d d' : Draft} {cs cs' rest rest' : List Char}, f.read draft cs = .ok (d, rest) →
      f.read draft cs' = .ok (d', rest') → d.SameOutside d' := by
  -- a private field puts its own value into a draft, and nothing else
  simp only [schema, List.forall_mem_cons]
  refine ⟨?_, ?_, ?_, ?_, ?_, ?_, by simp⟩
  · exact fun hname => absurd hname (show "httpMethod" ∉ privateFields by decide)
  · exact fun hname => absurd hname (show "path" ∉ privateFields by decide)
  · exact fun _ _ _ _ _ _ _ _ => field_related fun _ _ => ⟨rfl, rfl, rfl, rfl, rfl, rfl⟩
  · exact fun _ _ _ _ _ _ _ _ => field_related fun _ _ => ⟨rfl, rfl, rfl, rfl, rfl, rfl⟩
  · exact fun _ _ _ _ _ _ _ _ => field_related fun _ _ => ⟨rfl, rfl, rfl, rfl, rfl, rfl⟩
  · exact fun hname => absurd hname (show "isBase64Encoded" ∉ privateFields by decide)

/-- One private value is exchanged for another that takes the same space: the field takes both, or
complains about both in the same words and at the same place. -/
inductive Exchanged : String → String → Prop
  | taken {f : Json.Field Draft} {draft d d' : Draft} {front value value' back : List Char}
    (hf : f ∈ schema.fields) (hname : f.name ∈ privateFields) (hawaits : schema.Awaits {} front f draft)
    (hread : f.read draft (value ++ back) = .ok (d, back))
    (hread' : f.read draft (value' ++ back) = .ok (d', back)) (hspace : SameSpace value value') :
    Exchanged (String.ofList (front ++ (value ++ back))) (String.ofList (front ++ (value' ++ back)))
  | misread {f : Json.Field Draft} {draft : Draft} {front value value' back : List Char}
    {m m' : Json.Misread} (hf : f ∈ schema.fields) (hname : f.name ∈ privateFields)
    (hawaits : schema.Awaits {} front f draft) (hread : f.read draft (value ++ back) = .error m)
    (hread' : f.read draft (value' ++ back) = .error m') (hfault : m.fault = m'.fault)
    (hextra : m.extra = m'.extra)
    (hleft : (m.rest.flatMap String.utf8EncodeChar).length =
      (m'.rest.flatMap String.utf8EncodeChar).length) (hspace : SameSpace value value') :
    Exchanged (String.ofList (front ++ (value ++ back))) (String.ofList (front ++ (value' ++ back)))

def beforeHeaders (e : Event) : List (String × Json) :=
  [("httpMethod", .string e.method), ("path", .string e.path),
    ("queryStringParameters", (e.query.map Answer.headersJson).getD .null)]

theorem awaits_headers (e : Event) :
    ∃ f ∈ schema.fields, f.name = "headers" ∧ ∃ draft,
      schema.Awaits {} ('\x7b' :: Json.Schema.opened "headers" e.beforeHeaders) f draft ∧
      ∀ (m : Option TextMap) (c : Char) (rest : List Char), [',', ']', '\x7d'].contains c → ∃ d,
        f.read draft (Json.compactChars ((m.map Answer.headersJson).getD .null) ++ c :: rest) =
          .ok (d, c :: rest) := by
  have hreads : schema.Reads {} e.beforeHeaders
      { method := some e.method, path := some e.path, query := some e.query } := by
    refine .cons _ rfl rfl (field_read (Json.readsBack_textField e.method) _) ?_
    refine .cons _ rfl rfl (field_read (Json.readsBack_textField e.path) _) ?_
    refine .cons _ rfl rfl (field_read (readsBack_optionalMap e.query) _) ?_
    exact .nil _
  have hfind : schema.fields.find? (·.name == "headers") = some (field "headers" false (·.headers.isSome)
      (Json.optional Json.mapField) fun d v => { d with headers := some v }) := rfl
  refine ⟨_, List.mem_of_find?_eq_some hfind, rfl, _,
    Json.Schema.awaits_opened schema_forward hreads hfind rfl, ?_⟩
  intro m c rest hc
  exact ⟨_, field_read (readsBack_optionalMap m) _ c rest hc⟩

theorem exchanged_headers (e : Event) {m : Option TextMap}
    (hspace : SameSpace (Json.compactChars ((e.headers.map Answer.headersJson).getD .null))
      (Json.compactChars ((m.map Answer.headersJson).getD .null))) :
    Exchanged e.toJson.compact ({ e with headers := m } : Event).toJson.compact := by
  obtain ⟨f, hf, hname, draft, hawaits, htakes⟩ := awaits_headers e
  have htext : ∀ m, ({ e with headers := m } : Event).toJson.compact =
      String.ofList (('\x7b' :: Json.Schema.opened "headers" e.beforeHeaders) ++
        (Json.compactChars ((m.map Answer.headersJson).getD .null) ++
          Json.afterMember [("body", (e.body.map Json.string).getD .null),
            ("isBase64Encoded", .bool e.isBase64Encoded)])) := by
    intro m
    rw [List.cons_append, ← Json.Schema.memberChars_opened]
    rfl
  -- the headers are followed by a comma, so the field takes them
  obtain ⟨c, rest, hc, hafter⟩ := Json.afterMember_cases [("body", (e.body.map Json.string).getD .null),
    ("isBase64Encoded", .bool e.isBase64Encoded)] []
  rw [List.append_nil] at hafter
  have hsame := htext e.headers
  rw [hafter] at htext hsame
  obtain ⟨d, hd⟩ := htakes e.headers c rest hc
  obtain ⟨d', hd'⟩ := htakes m c rest hc
  rw [htext m]
  refine hsame.symm ▸ ?_
  exact .taken hf (by rw [hname]; decide) hawaits hd hd' hspace

/-- Two readings of events: the same failure, or events with the same method and path. -/
inductive ReadAlike : Except Json.Error Event → Except Json.Error Event → Prop
  | failed (e : Json.Error) : ReadAlike (.error e) (.error e)
  | read {e e' : Event} (hmethod : e.method = e'.method) (hpath : e.path = e'.path) :
    ReadAlike (.ok e) (.ok e')

theorem ReadAlike.refl (x : Except Json.Error Event) : ReadAlike x x := by
  cases x with
  | error e => exact .failed e
  | ok e => exact .read rfl rfl

theorem ReadAlike.trans {x y z : Except Json.Error Event} (h : ReadAlike x y) (h' : ReadAlike y z) :
    ReadAlike x z := by
  cases h with
  | failed e => exact h'
  | read hmethod hpath =>
    cases h' with
    | read hmethod' hpath' => exact .read (hmethod.trans hmethod') (hpath.trans hpath')

theorem readDocument_alike {cs cs' : List Char} (hspace : SameSpace cs cs')
    (h : Alike Draft.SameOutside (schema.read {} cs) (schema.read {} cs')) :
    ReadAlike (ofJsonText (String.ofList cs)) (ofJsonText (String.ofList cs')) := by
  unfold ofJsonText Json.readDocument Json.readWhole
  simp only [String.toList_ofList]
  cases hread : schema.read {} cs with
  | error m =>
    cases hread' : schema.read {} cs' with
    | error m' =>
      rw [hread, hread'] at h
      obtain rfl : m = m' := h
      show ReadAlike (.error (m.place cs)) (.error (m.place cs'))
      rw [hspace.place rfl rfl rfl]
      exact .failed _
    | ok p' =>
      rw [hread, hread'] at h
      exact h.elim
  | ok p =>
    cases hread' : schema.read {} cs' with
    | error m' =>
      rw [hread, hread'] at h
      exact h.elim
    | ok p' =>
      obtain ⟨d, rest⟩ := p
      obtain ⟨d', rest'⟩ := p'
      rw [hread, hread'] at h
      obtain ⟨hd, rfl⟩ := h
      dsimp only [bind, Except.bind]
      -- what stands behind the record is the same in both
      cases Json.skipBlanks rest with
      | nil => exact .read (congrArg (·.getD "") hd.method) (congrArg (·.getD "") hd.path)
      | cons c more =>
        show ReadAlike (.error (Json.Misread.place cs _)) (.error (Json.Misread.place cs' _))
        rw [hspace.place rfl rfl rfl]
        exact .failed _

theorem ofJsonText_awaits {f : Json.Field Draft} {draft : Draft} {front text : List Char}
    (h : schema.Awaits {} front f draft) {m : Json.Misread} (hread : f.read draft text = .error m) :
    ofJsonText (String.ofList (front ++ text)) = .error (m.place (front ++ text)) := by
  unfold ofJsonText Json.readDocument Json.readWhole
  rw [String.toList_ofList, h.error hread]
  rfl

theorem Exchanged.readAlike {text text' : String} (h : Exchanged text text') :
    ReadAlike (ofJsonText text) (ofJsonText text') := by
  cases h with
  | taken hf hname hawaits hread hread' hspace =>
    apply readDocument_alike
    · exact hspace.inside _ _
    · exact hawaits.alike schema_keeps hread hread' (private_sameOutside _ hf hname hread hread')
  | misread hf hname hawaits hread hread' hfault hextra hleft hspace =>
    rw [ofJsonText_awaits hawaits hread, ofJsonText_awaits hawaits hread',
      (hspace.inside _ _).place hfault hextra hleft]
    exact .failed _

theorem readAlike_of_exchanged {text text' : String} (h : Relation.ReflTransGen Exchanged text text') :
    ReadAlike (ofJsonText text) (ofJsonText text') := by
  induction h with
  | refl => exact .refl _
  | tail _ hlast ih => exact ih.trans hlast.readAlike

def request? (text : String) : Option Inbound :=
  (ofJsonText text).toOption.bind fun e => e.toInbound.toOption

theorem toInbound_alike {e e' : Event} (hmethod : e.method = e'.method) (hpath : e.path = e'.path) :
    (∃ refusal, e.toInbound = .error refusal ∧ e'.toInbound = .error refusal) ∨
    ∃ r r', e.toInbound = .ok r ∧ e'.toInbound = .ok r' ∧ r.method = r'.method ∧ r.path = r'.path := by
  unfold toInbound
  rw [hmethod]
  cases Method.ofName? e'.method with
  | none => exact .inl ⟨_, rfl, rfl⟩
  | some method => exact .inr ⟨_, _, rfl, rfl, rfl, hpath⟩

end Event

/-! ### The log -/

theorem Json.place_append (fault : Json.Fault) (front back : List Char) :
    (⟨fault, back, 0⟩ : Json.Misread).place (front ++ back) =
      ⟨fault, .after (front.flatMap String.utf8EncodeChar)⟩ := by
  unfold Misread.place
  dsimp only
  rw [List.flatMap_append, List.length_append, Nat.add_sub_cancel, Nat.add_zero, List.take_left]

theorem Json.optional_mapField_quoted (s : String) (back : List Char) :
    Json.optional Json.mapField (Json.quoteChars s ++ back) =
      .error ⟨.wrongType (.text s) "a map", back, 0⟩ := by
  have hscalar : readScalar ('"' :: (s.toList.flatMap escapeChar ++ '"' :: back)) =
      .ok (.string s, back) := by
    show (readString (s.toList.flatMap escapeChar ++ '"' :: back) >>= fun p => pure (Json.string p.1, p.2)) =
      _
    rw [readString_quoted]
    rfl
  have hmap : mapField ('"' :: (s.toList.flatMap escapeChar ++ '"' :: back)) =
      .error ⟨.wrongType (.text s) "a map", back, 0⟩ := by
    show mismatch "a map" ('"' :: (s.toList.flatMap escapeChar ++ '"' :: back)) = _
    show (readScalar ('"' :: (s.toList.flatMap escapeChar ++ '"' :: back)) >>= _) = _
    rw [hscalar]
    rfl
  rw [quoteChars_append]
  show (mapField ('"' :: (s.toList.flatMap escapeChar ++ '"' :: back)) >>= _) = _
  rw [hmap]
  rfl

theorem Json.message_quoted (s : String) (place : Json.Position) :
    (⟨.wrongType (.text s) "a map", place⟩ : Json.Error).message =
      "invalid type: string " ++ Quoted.quote s ++
        s!", expected a map at line {place.line} column {place.column}" := by
  -- the pieces of the message are joined in another order
  have hfront : "invalid type: string " = "invalid type: " ++ "string " := by decide
  have hback : ", expected a map at line " = ", expected " ++ ("a map" ++ " at line ") := by decide
  show "invalid type: " ++ ("string " ++ Quoted.quote s) ++ ", expected " ++ "a map" ++ " at line " ++
    toString place.line ++ " column " ++ toString place.column = "invalid type: string " ++ Quoted.quote s ++
      (", expected a map at line " ++ toString place.line ++ " column " ++ toString place.column)
  rw [hfront, hback]
  simp only [String.append_assoc]

theorem Event.read_quoted : ∀ fld ∈ schema.fields, fld.name ∈ ["queryStringParameters", "headers"] →
    ∀ (draft : Draft) (s : String) (back : List Char), fld.read draft (Json.quoteChars s ++ back) =
      .error ⟨.wrongType (.text s) "a map", back, 0⟩ := by
  have hread : ∀ (name : String) (required : Bool) (isSet : Draft → Bool)
      (put : Draft → Option TextMap → Draft) (draft : Draft) (s : String) (back : List Char),
      (field name required isSet (Json.optional Json.mapField) put).read draft (Json.quoteChars s ++ back) =
        .error ⟨.wrongType (.text s) "a map", back, 0⟩ := by
    intro name required isSet put draft s back
    show (Json.optional Json.mapField (Json.quoteChars s ++ back) >>= _) = _
    rw [Json.optional_mapField_quoted]
    rfl
  simp only [schema, List.forall_mem_cons]
  refine ⟨?_, ?_, ?_, ?_, ?_, ?_, by simp⟩
  · exact fun hname => absurd hname (show "httpMethod" ∉ _ by decide)
  · exact fun hname => absurd hname (show "path" ∉ _ by decide)
  · exact fun _ => hread _ _ _ _
  · exact fun _ => hread _ _ _ _
  · exact fun hname => absurd hname (show "body" ∉ _ by decide)
  · exact fun hname => absurd hname (show "isBase64Encoded" ∉ _ by decide)

namespace Forwarder

variable {f : Forwarder} {net : Network}

theorem handleEvent_error {text : String} {e : Json.Error} (h : Event.ofJsonText text = .error e) :
    (f.handleEvent net text).2.visible =
      [⟨.warn, "Malformed function event", [("error", .text e.message)]⟩] := by
  unfold handleEvent
  rw [h]
  rfl

/-- Requests of which as much is known, and which can both be prepared and be sent alike. -/
def FareAlike (f : Forwarder) (net : Network) (r r' : Inbound) : Prop :=
  (r.header? "authorization").isSome = (r'.header? "authorization").isSome ∧
    r.query.isEmpty = r'.query.isEmpty ∧ r.hasBody = r'.hasBody ∧
    ∃ out out', f.prepare r = .ok out ∧ f.prepare r' = .ok out' ∧
      net.SendsAlike (Client.firstHop out).url (Client.firstHop out').url

theorem handleEvent_alike (hnet : net.IsAddressed) {text text' : String}
    (h : Event.ReadAlike (Event.ofJsonText text) (Event.ofJsonText text'))
    (hrequests : ∀ r r', Event.request? text = some r → Event.request? text' = some r' →
      f.FareAlike net r r') :
    (f.handleEvent net text).2.visible = (f.handleEvent net text').2.visible := by
  cases hread : Event.ofJsonText text with
  | error e =>
    cases hread' : Event.ofJsonText text' with
    | error e' =>
      rw [hread, hread'] at h
      cases h
      rw [handleEvent_error hread, handleEvent_error hread']
    | ok e' =>
      rw [hread, hread'] at h
      cases h
  | ok e =>
    cases hread' : Event.ofJsonText text' with
    | error e' =>
      rw [hread, hread'] at h
      cases h
    | ok e' =>
      rw [hread, hread'] at h
      obtain ⟨hmethod, hpath⟩ : e.method = e'.method ∧ e.path = e'.path := by
        cases h with
        | read hmethod hpath => exact ⟨hmethod, hpath⟩
      unfold handleEvent
      rw [hread, hread']
      rcases Event.toInbound_alike hmethod hpath with ⟨refusal, hr, hr'⟩ | ⟨r, r', hr, hr', hmethod, hpath⟩
      · -- a method that is not known is refused by its name alone
        simp only [hr, hr']
      · simp only [hr, hr']
        have hrequest : Event.request? text = some r := by
          simp [Event.request?, hread, hr, Except.toOption]
        have hrequest' : Event.request? text' = some r' := by
          simp [Event.request?, hread', hr', Except.toOption]
        obtain ⟨hauthorization, hquery, hbody, out, out', hout, hout', hsends⟩ :=
          hrequests r r' hrequest hrequest'
        exact (forwardUntil_alike ⟨hmethod, hpath, hquery, hauthorization, hbody⟩ hnet hout hout' hsends
          .never).1

theorem handleEvent_awaits {fld : Json.Field Event.Draft} {draft : Event.Draft} {front text : List Char}
    (h : Event.schema.Awaits {} front fld draft) {m : Json.Misread} (hread : fld.read draft text = .error m) :
    (f.handleEvent net (String.ofList (front ++ text))).2.visible =
      [⟨.warn, "Malformed function event", [("error", .text (m.place (front ++ text)).message)]⟩] :=
  handleEvent_error (Event.ofJsonText_awaits h hread)

/-- Private values leave no trace in the log as long as the events are read alike: both fail in the same
words at the same place, or both are read and name the same method and path. That is so when private
values are exchanged for others that take the same space, and that their fields take or complain about
in the same words. What a field does not take is described in the log, and a text where a map of headers
or of a query is expected is quoted in full. -/
theorem event_log_private (f : Forwarder) {net : Network} (hnet : net.IsAddressed) :
    (∀ text text', Event.ReadAlike (Event.ofJsonText text) (Event.ofJsonText text') →
      (∀ r r', Event.request? text = some r → Event.request? text' = some r' → f.FareAlike net r r') →
      (f.handleEvent net text).2.visible = (f.handleEvent net text').2.visible) ∧
    (∀ text text', Relation.ReflTransGen Event.Exchanged text text' →
      Event.ReadAlike (Event.ofJsonText text) (Event.ofJsonText text')) ∧
    ∀ fld ∈ Event.schema.fields, ∀ draft front, Event.schema.Awaits {} front fld draft →
      (∀ text m, fld.read draft text = .error m →
        (f.handleEvent net (String.ofList (front ++ text))).2.visible =
          [⟨.warn, "Malformed function event", [("error", .text (m.place (front ++ text)).message)]⟩]) ∧
      (fld.name ∈ ["queryStringParameters", "headers"] → ∀ s back,
        let place := Json.Position.after ((front ++ Json.quoteChars s).flatMap String.utf8EncodeChar)
        (f.handleEvent net (String.ofList (front ++ (Json.quoteChars s ++ back)))).2.visible =
          [⟨.warn, "Malformed function event", [("error", .text ("invalid type: string " ++
            Quoted.quote s ++ s!", expected a map at line {place.line} column {place.column}"))]⟩]) := by
  refine ⟨fun text text' => handleEvent_alike hnet, fun text text' => Event.readAlike_of_exchanged,
    fun fld hfld draft front hawaits => ⟨fun text m hread => ?_, ?_⟩⟩
  · exact handleEvent_awaits hawaits hread
  · intro hname s back place
    rw [handleEvent_awaits hawaits (Event.read_quoted fld hfld hname draft s back), ← List.append_assoc,
      Json.place_append, Json.message_quoted]

/-- A token where the headers are expected is quoted, so the log tells two tokens apart. As the value of
a header the same tokens leave no trace, nor do a longer token and a shorter query of one length in all. -/
theorem event_log_private_token :
    let f : Forwarder := ⟨⟨⟨"http", some { host := .domain "origin.example" }, .segments [""], none, none⟩,
      ["/api"]⟩, {}, true⟩
    let net := Network.scripted []
    let front := "\x7b\"httpMethod\":\"GET\",\"path\":\"/x\",\"queryStringParameters\":\x7b\"a\":\"1\"\x7d," ++
      "\"headers\":"
    let proper := fun value token : String =>
      ({ method := "GET", path := "/x", query := some (.ofList [("a", value)]),
         headers := some (.ofList [("authorization", token)]) } : Event)
    net.IsAddressed ∧
      (f.handleEvent net (front ++ "\"secret1\"\x7d")).2.visible ≠
        (f.handleEvent net (front ++ "\"secret2\"\x7d")).2.visible ∧
      (f.handleEvent net (proper "1" "secret1").toJson.compact).2.visible =
        (f.handleEvent net (proper "1" "secret2").toJson.compact).2.visible ∧
      (proper "1" "secret12").toJson.compact.length = (proper "12" "secret1").toJson.compact.length ∧
      (f.handleEvent net (proper "1" "secret12").toJson.compact).2.visible =
        (f.handleEvent net (proper "12" "secret1").toJson.compact).2.visible := by
  intro f net front proper
  have hnet : net.IsAddressed := fun _ _ _ _ => rfl
  obtain ⟨halike, hexchanged, hdescribed⟩ := event_log_private f hnet
  let request (p : String × String) : Inbound :=
    { method := .get, path := "/x", query := .ofList [("a", p.1)],
      headers := .ofList [("authorization", p.2)] }
  let pairs := [("1", "secret1"), ("1", "secret2"), ("1", "secret12"), ("12", "secret1")]
  have hread : ∀ p ∈ pairs, Event.request? (proper p.1 p.2).toJson.compact = some (request p) := by
    have hinbound : ∀ p ∈ pairs, (proper p.1 p.2).toInbound.toOption = some (request p) :=
      forall_mem_of_all (by decide +kernel)
    intro p hp
    unfold Event.request?
    rw [Event.ofJsonText_compact]
    exact hinbound p hp
  have hknown : ∀ p ∈ pairs, ((request p).header? "authorization").isSome = true ∧
      (request p).query.isEmpty = false ∧ (request p).hasBody = false ∧
      f.refusal? (request p).path (Headers.unsendable? (request p)) = none ∧
      ((f.prepare (request p)).toOption.all fun out => Client.isUri (Client.firstHop out).url) = true :=
    forall_mem_of_all (by decide +kernel)
  have hfare : ∀ p ∈ pairs, ∀ p' ∈ pairs, ∀ r r', Event.request? (proper p.1 p.2).toJson.compact = some r →
      Event.request? (proper p'.1 p'.2).toJson.compact = some r' → f.FareAlike net r r' := by
    intro p hp p' hp' r r' hr hr'
    obtain rfl := Option.some.inj ((hread p hp).symm.trans hr)
    obtain rfl := Option.some.inj ((hread p' hp').symm.trans hr')
    obtain ⟨hauthorization, hquery, hbody, hrefusal, huri⟩ := hknown p hp
    obtain ⟨hauthorization', hquery', hbody', hrefusal', huri'⟩ := hknown p' hp'
    obtain ⟨out, hout⟩ := prepare_of_refusal? hrefusal
    obtain ⟨out', hout'⟩ := prepare_of_refusal? hrefusal'
    rw [hout] at huri
    rw [hout'] at huri'
    refine ⟨by rw [hauthorization, hauthorization'], by rw [hquery, hquery'], by rw [hbody, hbody'],
      out, out', hout, hout', huri.trans huri'.symm, ?_⟩
    -- no reply refers on
    rintro reference u' v' ⟨i, status, headers, body, hreply, hlocation⟩ - -
    obtain ⟨rfl, rfl, rfl⟩ := Reply.answer.inj hreply
    cases hlocation
  have hpairs : ("1", "secret1") ∈ pairs ∧ ("1", "secret2") ∈ pairs ∧ ("1", "secret12") ∈ pairs ∧
      ("12", "secret1") ∈ pairs := by decide
  refine ⟨hnet, ?_, ?_, ?_, ?_⟩
  · obtain ⟨fld, hfld, hname, draft, hawaits, -⟩ := Event.awaits_headers (proper "1" "")
    have hquoted := (hdescribed fld hfld draft _ hawaits).2 (by rw [hname]; decide)
    have htext : ∀ token ∈ ["secret1", "secret2"], front ++ "\"" ++ token ++ "\"\x7d" =
        String.ofList (('\x7b' :: Json.Schema.opened "headers" (proper "1" "").beforeHeaders) ++
          (Json.quoteChars token ++ ['\x7d'])) := by decide +kernel
    have h₁ := hquoted "secret1" ['\x7d']
    have h₂ := hquoted "secret2" ['\x7d']
    rw [← htext "secret1" (by decide)] at h₁
    rw [← htext "secret2" (by decide)] at h₂
    intro heq
    have hmessages := h₁.symm.trans (heq.trans h₂)
    revert hmessages
    decide +kernel
  · have hone : Event.Exchanged (proper "1" "secret1").toJson.compact (proper "1" "secret2").toJson.compact :=
      Event.exchanged_headers (m := some (.ofList [("authorization", "secret2")])) (proper "1" "secret1")
        (by decide +kernel)
    have hboth := hexchanged _ _ (Relation.ReflTransGen.single hone)
    exact halike _ _ hboth (hfare ("1", "secret1") hpairs.1 ("1", "secret2") hpairs.2.1)
  · unfold Json.compact
    rw [String.length_ofList, String.length_ofList]
    decide +kernel
  · have hboth : Event.ReadAlike (Event.ofJsonText (proper "1" "secret12").toJson.compact)
        (Event.ofJsonText (proper "12" "secret1").toJson.compact) := by
      rw [Event.ofJsonText_compact, Event.ofJsonText_compact]
      exact .read rfl rfl
    exact halike _ _ hboth (hfare ("1", "secret12") hpairs.2.2.1 ("12", "secret1") hpairs.2.2.2)

end Forwarder

end Relay
