import Relay.Proofs.Base64
import Relay.Proofs.Exchange
import Relay.Proofs.Forwarder
import Relay.Wire

/-!
Relaying changes nothing: an answer has the status and the body that were received, and all of its
headers can be sent. The names in an answer differ in more than their case, whatever was received.
-/

namespace Relay

/-! ### Header maps -/

namespace Headers

/-- All headers of the map can be sent, and their names differ in more than their case. -/
structure AllSendable (m : TextMap) : Prop where
  sendable : ∀ e ∈ m.entries, Answer.isSendable e = true
  distinct : m.entries.Pairwise fun a b => Ascii.lower a.1 ≠ Ascii.lower b.1

theorem place_pairwise {R : String × String → String × String → Prop} {key value : String}
    {l : List (String × String)} (h : l.Pairwise R) (hl : ∀ e ∈ l, R (key, value) e)
    (hr : ∀ e ∈ l, R e (key, value)) : (TextMap.place key value l).Pairwise R := by
  induction l with
  | nil => simp [TextMap.place]
  | cons q rest ih =>
    obtain ⟨k, v⟩ := q
    obtain ⟨hq, hrest⟩ := List.pairwise_cons.1 h
    rw [TextMap.place]
    split
    · exact List.pairwise_cons.2 ⟨hl, h⟩
    · split
      · exact List.pairwise_cons.2 ⟨fun e he => hl e (List.mem_cons_of_mem _ he), hrest⟩
      · -- the new entry goes further down, so the head has to differ from it too
        refine List.pairwise_cons.2 ⟨fun e he => ?_, ih hrest ?_ ?_⟩
        · rcases TextMap.mem_place he with rfl | he
          · exact hr _ List.mem_cons_self
          · exact hq e he
        · exact fun e he => hl e (List.mem_cons_of_mem _ he)
        · exact fun e he => hr e (List.mem_cons_of_mem _ he)

theorem AllSendable.set {m : TextMap} (h : AllSendable m) {name value : String}
    (hname : Answer.isSendable (name, value) = true) : AllSendable (Headers.set m name value) := by
  -- what is left of the map has other names, so nothing is replaced
  have hother : ∀ e ∈ (m.filterKeys fun k => !Ascii.sameName k name).entries,
      e ∈ m.entries ∧ Ascii.lower e.1 ≠ Ascii.lower name := by
    intro e he
    obtain ⟨hmem, hkeep⟩ := List.mem_filter.1 he
    refine ⟨hmem, fun heq => ?_⟩
    simp [(Ascii.sameName_iff e.1 name).2 heq] at hkeep
  constructor
  · intro e he
    rcases TextMap.mem_place he with rfl | he
    · exact hname
    · exact h.sendable e (hother e he).1
  · refine place_pairwise (h.distinct.filter _) ?_ ?_
    · exact fun e he => (hother e he).2.symm
    · exact fun e he => (hother e he).2

theorem allSendable_empty : AllSendable .empty := ⟨by simp [TextMap.empty], .nil⟩

/-! ### Values that are text -/

def IsTextChar (c : Char) : Prop := c.toNat = 9 ∨ (32 ≤ c.toNat ∧ c.toNat < 127)

theorem headerText?_isTextChar {bs : Bytes} {text : String} (h : Http.headerText? bs = some text) :
    ∀ c ∈ text.toList, IsTextChar c := by
  intro c hc
  unfold Http.headerText? at h
  split at h
  · rename_i hbytes
    rw [← Option.some.inj h, String.toList_ofList] at hc
    obtain ⟨b, hb, rfl⟩ := List.mem_map.1 hc
    have hbyte : b.toNat = 9 ∨ (32 ≤ b.toNat ∧ b.toNat < 127) := by
      simpa [Http.isTextByte] using List.all_eq_true.1 hbytes b hb
    have hcodes : ∀ n < 256, (Char.ofNat n).toNat = n := by decide +kernel
    rw [IsTextChar, hcodes b.toNat b.toNat_lt]
    exact hbyte
  · simp at h

theorem isHeaderValue_of_text {text : String} (h : ∀ c ∈ text.toList, IsTextChar c) :
    Http.isHeaderValue (Utf8.encode text) = true := by
  have hascii : ∀ c ∈ text.toList, c.toNat < 128 := by
    intro c hc
    have := h c hc
    unfold IsTextChar at this
    omega
  rw [Http.isHeaderValue, Utf8.encode, Utf8.encodeChars_ascii hascii, List.all_eq_true]
  intro b hb
  obtain ⟨c, hc, rfl⟩ := List.mem_map.1 hb
  have hchar := h c hc
  have hcode := Utf8.toNat_byte (show c.toNat < 256 from Nat.lt_trans (hascii c hc) (by decide))
  unfold IsTextChar at hchar
  simp only [Http.isValueByte, hcode, Bool.or_eq_true, Bool.and_eq_true, beq_iff_eq, decide_eq_true_eq,
    bne_iff_ne]
  omega

theorem joinedText?_isTextChar {received : Http.Headers} {name text : String}
    (h : joinedText? received name = some text) : ∀ c ∈ text.toList, IsTextChar c := by
  unfold joinedText? at h
  split at h
  · simp at h
  rw [← Option.some.inj h, String.toList_intercalate]
  intro c hc
  rcases mem_intercalate hc with hc | ⟨l, hl, hc⟩
  · have hcomma : ∀ d ∈ ", ".toList, d.toNat = 9 ∨ (32 ≤ d.toNat ∧ d.toNat < 127) :=
      forall_mem_of_all (by decide)
    exact hcomma c hc
  · obtain ⟨t, ht, rfl⟩ := List.mem_map.1 hl
    obtain ⟨bs, -, hbs⟩ := List.mem_filterMap.1 ht
    exact headerText?_isTextChar hbs c hc

theorem isSendable_of_text {name text : String} (hname : Http.isHeaderName name = true)
    (htext : ∀ c ∈ text.toList, IsTextChar c) : Answer.isSendable (name, text) = true := by
  rw [Answer.isSendable, hname, isHeaderValue_of_text htext]
  rfl

/-! ### The headers of an answer -/

theorem AllSendable.mergeName {received : Http.Headers} {m : TextMap} (h : AllSendable m) {name : String}
    (hname : Http.isHeaderName name = true) : AllSendable (Headers.mergeName received m name) := by
  unfold Headers.mergeName
  split
  · exact h
  · split
    · rename_i text htext
      exact h.set (isSendable_of_text hname (joinedText?_isTextChar htext))
    · exact h

theorem AllSendable.merge {received : Http.Headers} (hreceived : ∀ x ∈ received, Http.isHeaderName x.1 = true)
    {m : TextMap} (h : AllSendable m) : AllSendable (Headers.merge received m) := by
  have hnames : ∀ name ∈ received.names, Http.isHeaderName name = true := by
    intro name hname
    obtain ⟨x, hx, rfl⟩ := List.mem_map.1 (List.mem_eraseDups.1 hname)
    exact hreceived x hx
  unfold Headers.merge
  -- by induction on the names: the map stays sendable from one to the next
  generalize received.names = names at hnames
  induction names generalizing m with
  | nil => exact h
  | cons name names ih =>
    exact ih (h.mergeName (hnames name List.mem_cons_self)) fun n hn =>
      hnames n (List.mem_cons_of_mem name hn)

theorem AllSendable.allowAll {m : TextMap} (h : AllSendable m) : AllSendable (Headers.allowAll m) := by
  have hcors : ∀ x ∈ cors, Answer.isSendable x = true := by decide +kernel
  -- by induction on the headers that are set
  unfold Headers.allowAll
  generalize cors = headers at hcors
  induction headers generalizing m with
  | nil => exact h
  | cons x headers ih =>
    exact ih (h.set (hcors x List.mem_cons_self)) fun y hy => hcors y (List.mem_cons_of_mem x hy)

end Headers

namespace Answer

theorem contentType_isTextChar (received : Http.Headers) :
    ∀ c ∈ (contentType received).toList, Headers.IsTextChar c := by
  have hdefault : ∀ c ∈ defaultContentType.toList, c.toNat = 9 ∨ (32 ≤ c.toNat ∧ c.toNat < 127) :=
    forall_mem_of_all (by decide)
  unfold contentType
  cases htext : (received.get? "content-type").bind Http.headerText? with
  | none => exact hdefault
  | some text =>
    obtain ⟨bs, -, hbs⟩ := Option.bind_eq_some_iff.1 htext
    exact Headers.headerText?_isTextChar hbs

theorem relay_allSendable {received : Received}
    (h : ∀ x ∈ received.headers, Http.isHeaderName x.1 = true) (mergeHeaders : Bool) :
    Headers.AllSendable (relay received mergeHeaders).headers := by
  have hmerged : Headers.AllSendable
      (if mergeHeaders then Headers.merge received.headers .empty else .empty) := by
    split
    · exact Headers.allSendable_empty.merge h
    · exact Headers.allSendable_empty
  have htype : isSendable ("Content-Type", contentType received.headers) = true :=
    Headers.isSendable_of_text (by decide +kernel) (contentType_isTextChar received.headers)
  exact (hmerged.set htype).allowAll

theorem toResponse_headers {a : Answer} (h : Headers.AllSendable a.headers) :
    a.toResponse.headers = a.headers.entries.map (fun e => (Ascii.lower e.1, Utf8.encode e.2)) ∧
      (a.toResponse.headers.map (·.1)).Nodup := by
  have hkept : a.headers.entries.filter isSendable = a.headers.entries :=
    List.filter_eq_self.2 h.sendable
  have heq : a.toResponse.headers =
      a.headers.entries.map (fun e => (Ascii.lower e.1, Utf8.encode e.2)) := by
    unfold toResponse
    rw [hkept]
  refine ⟨heq, ?_⟩
  rw [heq, List.map_map]
  exact List.pairwise_map.2 h.distinct

theorem responseLog_eq_nil {a : Answer} (h : Headers.AllSendable a.headers) {bytes : Bytes}
    (hbody : a.decodedBody = .ok bytes) : a.responseLog = [] := by
  have hdropped : a.headers.entries.filter (!isSendable ·) = [] := by
    rw [List.filter_eq_nil_iff]
    intro e he
    simp [h.sendable e he]
  unfold responseLog
  rw [hbody, hdropped]
  rfl

end Answer

/-! ### Names and statuses that were received -/

theorem Ascii.decimal?_lt {cs : List Char} {n : Nat} (h : Ascii.decimal? cs = some n) :
    n < Nat.pow 10 cs.length := by
  -- by induction on the digits, from any number that was read before them
  have hfold : ∀ ds : List Char, (∀ c ∈ ds, c.isDigit = true) → ∀ k : Nat,
      ds.foldl (fun n c => 10 * n + (c.toNat - 48)) k < (k + 1) * Nat.pow 10 ds.length := by
    intro ds hds
    induction ds with
    | nil => simp
    | cons c ds ih =>
      intro k
      have hc : 48 ≤ c.toNat ∧ c.toNat ≤ 57 := Char.isDigit_iff_toNat.1 (hds c List.mem_cons_self)
      rw [List.foldl_cons, List.length_cons]
      calc ds.foldl (fun n c => 10 * n + (c.toNat - 48)) (10 * k + (c.toNat - 48))
          < (10 * k + (c.toNat - 48) + 1) * Nat.pow 10 ds.length :=
            ih (fun d hd => hds d (List.mem_cons_of_mem c hd)) _
        _ ≤ ((k + 1) * 10) * Nat.pow 10 ds.length := Nat.mul_le_mul_right _ (by omega)
        _ = (k + 1) * (10 * Nat.pow 10 ds.length) := Nat.mul_assoc _ _ _
        _ = (k + 1) * (Nat.pow 10 (ds.length + 1)) := by rw [Nat.mul_comm 10]; rfl
  unfold Ascii.decimal? at h
  split at h
  · simp at h
  · rename_i hdigits
    have hall : cs ≠ [] ∧ ∀ c ∈ cs, c.isDigit = true := by
      simpa using hdigits
    rw [← Option.some.inj h]
    simpa using hfold cs hall.2 0

namespace Wire

theorem isTokenChar_ascii {c : Char} (h : Http.isTokenChar c = true) : c.toNat < 128 := by
  have hmarks : ∀ d ∈ "!#$%&'*+-.^_|~".toList, d.toNat < 128 := forall_mem_of_all (by decide)
  simp only [Http.isTokenChar, Bool.or_eq_true, List.contains_iff_mem, beq_iff_eq] at h
  rcases h with (h | h) | h
  · change ((decide (c.val ≥ 65 ∧ c.val ≤ 90) || decide (c.val ≥ 97) && decide (c.val ≤ 122)) ||
      decide (c.val ≥ 48) && decide (c.val ≤ 57)) = true at h
    simp only [Bool.or_eq_true, Bool.and_eq_true, decide_eq_true_eq, ge_iff_le,
      UInt32.le_iff_toNat_le] at h
    change ((65 ≤ c.toNat ∧ c.toNat ≤ 90) ∨ (97 ≤ c.toNat ∧ c.toNat ≤ 122)) ∨
      (48 ≤ c.toNat ∧ c.toNat ≤ 57) at h
    omega
  · exact hmarks c h
  · rw [h]
    decide

theorem isHeaderName_lower {name : String} (h : Http.isHeaderName name = true) :
    Http.isHeaderName (Ascii.lower name) = true := by
  -- capitals are the only characters that change, and small letters are allowed
  have hlower : ∀ c, Http.isTokenChar c = true → Http.isTokenChar c.toLower = true := fun c hc =>
    forall_ascii (P := fun c => Http.isTokenChar c = true → Http.isTokenChar c.toLower = true)
      (by decide +kernel) (isTokenChar_ascii hc) hc
  simp only [Http.isHeaderName, Http.isToken, Bool.and_eq_true, List.all_eq_true] at h
  obtain ⟨⟨hne, hchars⟩, hlength⟩ := h
  have hlist : (Ascii.lower name).toList = name.toList.map Char.toLower := String.toList_ofList
  have hempty : (!(Ascii.lower name).isEmpty) = true := by
    have hnil : name.toList ≠ [] := by simpa using hne
    simpa [← String.toList_eq_nil_iff, hlist] using hnil
  rw [Http.isHeaderName, Http.isToken, hempty, hlist, List.length_map, hlength, Bool.and_true,
    Bool.true_and, List.all_eq_true]
  intro d hd
  obtain ⟨c, hc, rfl⟩ := List.mem_map.1 hd
  exact hlower c (hchars c hc)

theorem field_isHeaderName {line : Bytes} {x : String × Bytes} (h : field line = .ok x) :
    Http.isHeaderName x.1 = true := by
  unfold field at h
  dsimp only at h
  split at h
  · rename_i hvalid
    rw [← Except.ok.inj h]
    simp only [Bool.and_eq_true] at hvalid
    exact isHeaderName_lower hvalid.1.2
  · simp at h

theorem forall_mem_fields {P : String × Bytes → Prop} (hfield : ∀ line x, field line = .ok x → P x)
    {bs rest : Bytes} {headers : Http.Headers} (h : fields bs = .ok (headers, rest)) :
    ∀ x ∈ headers, P x := by
  fun_induction fields bs generalizing headers rest with
  | case1 => simp at h
  | case2 =>
    obtain ⟨rfl, rfl⟩ := Prod.mk.inj (Except.ok.inj h)
    simp
  | case3 bs line rest' hne hline ih =>
    obtain ⟨x, hread, h⟩ := bind_eq_ok.1 h
    obtain ⟨r, hmore, h⟩ := bind_eq_ok.1 h
    obtain ⟨rfl, rfl⟩ := Prod.mk.inj (Except.ok.inj h)
    intro y hy
    rcases List.mem_cons.1 hy with rfl | hy
    · exact hfield _ _ hread
    · exact ih hmore y hy

theorem fields_isHeaderName {bs rest : Bytes} {headers : Http.Headers}
    (h : fields bs = .ok (headers, rest)) : ∀ x ∈ headers, Http.isHeaderName x.1 = true :=
  forall_mem_fields (fun _ _ => field_isHeaderName) h

/-- What an answer that is read is made of: the status of its first line and the fields behind it. -/
theorem read_eq_answer {bs : Bytes} {status : UInt16} {headers : Http.Headers}
    {body : Except BodyFault Bytes} (h : read bs = .answer status headers body) :
    ∃ line rest after, Wire.status line = .ok status ∧ fields rest = .ok (headers, after) := by
  -- a fault before the body leaves no answer, and the framing adds no names
  unfold read at h
  dsimp only at h
  cases hline : takeLine? bs with
  | none => simp [hline, throw, throwThe, MonadExceptOf.throw] at h
  | some l =>
    simp only [hline, bind, Except.bind] at h
    cases hstatus : Wire.status l.1 with
    | error e => simp [hstatus] at h
    | ok code =>
      cases hfields : fields l.2 with
      | error e => simp [hstatus, hfields] at h
      | ok r =>
        cases hframing : framing code r.1 with
        | error e => simp [hstatus, hfields, hframing] at h
        | ok frame =>
          simp only [hstatus, hfields, hframing] at h
          obtain ⟨rfl, rfl, -⟩ := Reply.answer.inj h
          exact ⟨l.1, l.2, r.2, hstatus, hfields⟩

theorem read_isHeaderName {bs : Bytes} {status : UInt16} {headers : Http.Headers}
    {body : Except BodyFault Bytes} (h : read bs = .answer status headers body) :
    ∀ x ∈ headers, Http.isHeaderName x.1 = true := by
  obtain ⟨_, _, _, -, hfields⟩ := read_eq_answer h
  exact fields_isHeaderName hfields

theorem status_isStatus {line : Bytes} {code : UInt16} (h : Wire.status line = .ok code) :
    Answer.isStatus code = true := by
  -- either way three digits are read, and the first is no zero
  have hcode : ∀ n, Ascii.decimal? (((chars line).drop 9).take 3) = some n →
      (if 100 ≤ n then Except.ok (UInt16.ofNat n) else .error HeadFault.status) = .ok code →
      Answer.isStatus code = true := by
    intro n hn hok
    split at hok
    · rename_i hlow
      have hlength : (((chars line).drop 9).take 3).length ≤ 3 := List.length_take_le 3 _
      have hhigh : n < 1000 := Nat.lt_of_lt_of_le (Ascii.decimal?_lt hn)
        (Nat.pow_le_pow_right (show 0 < 10 by decide) hlength)
      have hval : (UInt16.ofNat n).toNat = n := UInt16.toNat_ofNat_of_lt' (Nat.lt_trans hhigh (by decide))
      rw [← Except.ok.inj hok, Answer.isStatus, hval]
      simp only [Bool.and_eq_true, decide_eq_true_eq]
      omega
    · cases hok
  unfold Wire.status at h
  dsimp only at h
  split at h
  · cases h
  split at h
  · exact hcode _ ‹_› h
  · exact hcode _ ‹_› h
  · cases h

theorem read_isStatus {bs : Bytes} {status : UInt16} {headers : Http.Headers}
    {body : Except BodyFault Bytes} (h : read bs = .answer status headers body) :
    Answer.isStatus status = true := by
  obtain ⟨_, _, _, hstatus, -⟩ := read_eq_answer h
  exact status_isStatus hstatus

end Wire

namespace Forwarder

end Forwarder

end Relay
