import Relay.Proofs.Hosts
import Relay.Proofs.HeaderWrites

/-!
The headers of a relayed answer. They are the four that every answer has and, if replies are merged into
answers, one for each other received name that may be passed on and has texts. The order in which the
names were received does not matter, only that of the values of each name.
-/

namespace Relay

/-! ### All headers of an answer -/

namespace Answer

def headerSteps (received : Http.Headers) (mergeHeaders : Bool) : List Headers.Step :=
  (if mergeHeaders then [.merge received] else []) ++
    [.set "Content-Type" (contentType received), .allowAll]

theorem relay_headers_eq (received : Received) (mergeHeaders : Bool) :
    (relay received mergeHeaders).headers =
      Headers.run .empty (headerSteps received.headers mergeHeaders) := by
  cases mergeHeaders <;> rfl

theorem headerSteps_lower {received : Http.Headers} (h : ∀ x ∈ received, Ascii.lower x.1 = x.1)
    (mergeHeaders : Bool) : ∀ s ∈ headerSteps received mergeHeaders, s.HasLowerNames := by
  rintro s hs other rfl
  cases mergeHeaders with
  | false => simp [headerSteps] at hs
  | true =>
    obtain rfl : other = received := by simpa [headerSteps] using hs
    exact h

def fixedHeaders (received : Http.Headers) : List (String × String) :=
  Headers.cors ++ [("Content-Type", contentType received)]

section

variable {received : Http.Headers}

theorem contentType_eq (received : Http.Headers) :
    contentType received =
      ((received.values "content-type").head?.bind Http.headerText?).getD "application/json" := by
  unfold contentType
  rw [Http.Headers.get?_eq_head?]
  rfl

theorem writes_fixed_iff {h : String × String} :
    (∃ s ∈ [Headers.Step.set "Content-Type" (contentType received), .allowAll], s.Writes h) ↔
      h ∈ fixedHeaders received := by
  unfold fixedHeaders
  simp only [List.mem_cons, List.not_mem_nil, or_false, exists_eq_or_imp, exists_eq_left,
    Headers.Step.writes_set_iff, Headers.Step.writes_allowAll_iff, List.mem_append]
  exact or_comm

theorem not_names_fixed_iff {name : String} :
    (∀ s ∈ [Headers.Step.set "Content-Type" (contentType received), .allowAll], ¬s.Names name) ↔
      ∀ f ∈ fixedHeaders received, Ascii.sameName f.1 name = false := by
  constructor
  · intro h f hf
    obtain ⟨s, hs, hw⟩ := writes_fixed_iff.2 hf
    exact Bool.eq_false_iff.2 fun hsame => h s hs ⟨f, hw, hsame⟩
  · rintro h s hs ⟨f, hw, hsame⟩
    rw [h f (writes_fixed_iff.1 ⟨s, hs, hw⟩)] at hsame
    cases hsame

/-- The media type has a name of its own, so none of the four is written over another. -/
theorem isLastWrite_fixed_iff {e : String × String} :
    Headers.IsLastWrite [.set "Content-Type" (contentType received), .allowAll] e ↔
      e ∈ fixedHeaders received := by
  have hother : ¬Headers.Step.allowAll.Names "Content-Type" := by
    rintro ⟨h, hw, hsame⟩
    have hcors : ∀ h ∈ Headers.cors, Ascii.sameName h.1 "Content-Type" = false := by decide +kernel
    rw [hcors h (Headers.Step.writes_allowAll_iff.1 hw)] at hsame
    cases hsame
  constructor
  · rintro ⟨before, step, after, heq, hw, -⟩
    refine writes_fixed_iff.1 ⟨step, ?_, hw⟩
    rw [heq]
    exact List.mem_append_right before List.mem_cons_self
  · intro he
    rw [Headers.isLastWrite_cons, Headers.isLastWrite_cons]
    rcases List.mem_append.1 he with he | he
    · exact .inl (.inr ⟨.allowAll he, by simp⟩)
    · obtain rfl := List.mem_singleton.1 he
      exact .inr ⟨.set, by simpa using hother⟩

theorem nodup_fixedHeaders (received : Http.Headers) : (fixedHeaders received).Nodup := by
  have hkeys : ((fixedHeaders received).map (·.1)).Nodup := by
    show ["Access-Control-Allow-Origin", "Access-Control-Allow-Headers", "Access-Control-Allow-Methods",
      "Content-Type"].Nodup
    decide +kernel
  exact List.Pairwise.of_map (·.1) (fun a b hne heq => hne (congrArg (·.1) heq)) hkeys

theorem isStripped_fixed : ∀ f ∈ fixedHeaders received, Headers.isStripped f.1 = false := by
  have hkeys : ∀ name ∈ (fixedHeaders received).map (·.1), Headers.isStripped name = false := by
    show ∀ name ∈ ["Access-Control-Allow-Origin", "Access-Control-Allow-Headers",
      "Access-Control-Allow-Methods", "Content-Type"], Headers.isStripped name = false
    decide +kernel
  exact fun f hf => hkeys f.1 (List.mem_map_of_mem hf)

theorem mem_relay_headers_iff {received : Received}
    (hlower : ∀ x ∈ received.headers, Ascii.lower x.1 = x.1) {mergeHeaders : Bool} {e : String × String} :
    e ∈ (relay received mergeHeaders).headers.entries ↔
      e ∈ fixedHeaders received.headers ∨ mergeHeaders = true ∧
        (∀ f ∈ fixedHeaders received.headers, Ascii.sameName f.1 e.1 = false) ∧
        (Headers.Step.merge received.headers).Writes e := by
  have hempty : ∀ {p : Prop}, ¬(e ∈ TextMap.empty.entries ∧ p) := fun h => List.not_mem_nil h.1
  rw [relay_headers_eq, Headers.mem_run_iff (headerSteps_lower hlower mergeHeaders), or_iff_left hempty]
  cases mergeHeaders with
  | false =>
    show Headers.IsLastWrite [.set _ _, .allowAll] e ↔ _
    rw [isLastWrite_fixed_iff]
    simp
  | true =>
    show Headers.IsLastWrite [.merge _, .set _ _, .allowAll] e ↔ _
    rw [Headers.isLastWrite_cons, isLastWrite_fixed_iff, not_names_fixed_iff, and_comm]
    simp

/-- The headers of a relayed answer have names that differ in more than their case. There are those that
let any site call, with their fixed values, and the media type, which is the first that was received if
that is text. Without merging there are no others. With merging there are, besides, exactly the received
names that do not belong to the connection and have texts, each with its texts in one line. -/
theorem relay_headers {received : Received} (hlower : ∀ x ∈ received.headers, Ascii.lower x.1 = x.1)
    (mergeHeaders : Bool) :
    let headers := (relay received mergeHeaders).headers
    let fixed := [("Access-Control-Allow-Origin", "*"),
      ("Access-Control-Allow-Headers", "Content-Type, Authorization, Accept"),
      ("Access-Control-Allow-Methods", "GET, POST, PUT, DELETE, PATCH, OPTIONS"),
      ("Content-Type", ((received.headers.values "content-type").head?.bind Http.headerText?).getD
        "application/json")]
    Headers.IsDistinct headers ∧
    (∀ f ∈ fixed, f ∈ headers.entries) ∧
    (mergeHeaders = false → headers.entries.Perm fixed) ∧
    (mergeHeaders = true → ∀ e, e ∈ headers.entries ↔ e ∈ fixed ∨
      (∀ f ∈ fixed, Ascii.sameName f.1 e.1 = false) ∧ Headers.isStripped e.1 = false ∧
        let texts := (received.headers.values e.1).filterMap Http.headerText?
        texts ≠ [] ∧ e.2 = ", ".intercalate texts) ∧
    ∀ e ∈ headers.entries, ∀ name ∈ Headers.stripped, Ascii.sameName e.1 name = false := by
  intro headers fixed
  have hfixed : fixed = fixedHeaders received.headers := by
    show _ = Headers.cors ++ [("Content-Type", contentType received.headers)]
    rw [contentType_eq]
    rfl
  have hmem : ∀ e, e ∈ headers.entries ↔ _ := fun e => mem_relay_headers_iff hlower
  rw [hfixed]
  refine ⟨?_, fun f hf => (hmem f).2 (.inl hf), ?_, ?_, ?_⟩
  · show Headers.IsDistinct (relay received mergeHeaders).headers
    rw [relay_headers_eq]
    refine Headers.IsDistinct.run (headerSteps_lower hlower mergeHeaders) ?_
    exact fun a ha => absurd ha List.not_mem_nil
  · -- neither list repeats an entry, so it is enough that they have the same ones
    rintro rfl
    rw [List.perm_ext_iff_of_nodup headers.nodup_entries (nodup_fixedHeaders _)]
    intro e
    rw [hmem]
    simp
  · rintro rfl e
    rw [hmem, Headers.Step.writes_merge_iff]
    simp only [true_and]
    rfl
  · intro e he name hname
    have hkept : Headers.isStripped e.1 = false := by
      rcases (hmem e).1 he with hf | ⟨-, -, hw⟩
      · exact isStripped_fixed e hf
      · exact (Headers.Step.writes_merge_iff.1 hw).1
    rw [Ascii.sameName_comm]
    exact Bool.eq_false_iff.2 (List.any_eq_false.1 hkept name hname)

end

/-- A reply with two media types, an origin of its own, a header of the connection and a header whose
values are not all text. -/
theorem relay_headers_overridden :
    let received : Received := ⟨200, [("content-type", Utf8.encode "text/a"),
      ("access-control-allow-origin", Utf8.encode "http://a"), ("content-type", Utf8.encode "text/b"),
      ("x-a", Utf8.encode "1"), ("te", Utf8.encode "b"), ("x-a", [255]), ("x-a", Utf8.encode "2")], []⟩
    (∀ x ∈ received.headers, Ascii.lower x.1 = x.1) ∧
      (relay received false).headers.entries.Perm
        (Headers.cors ++ [("Content-Type", "text/a")]) ∧
      ("Content-Type", "text/a") ∈ (relay received true).headers.entries ∧
      ("x-a", "1, 2") ∈ (relay received true).headers.entries ∧
      ∀ value, ("content-type", value) ∉ (relay received true).headers.entries := by
  intro received
  have hlower : ∀ x ∈ received.headers, Ascii.lower x.1 = x.1 := by decide +kernel
  have htype : ((received.headers.values "content-type").head?.bind Http.headerText?).getD
      "application/json" = "text/a" := by decide +kernel
  obtain ⟨-, -, hfour, -, -⟩ := relay_headers hlower false
  obtain ⟨hdistinct, hfixed, -, hall, -⟩ := relay_headers hlower true
  rw [htype] at hfour hfixed hall
  have hmedia := hfixed ("Content-Type", "text/a") (by decide)
  refine ⟨hlower, hfour rfl, hmedia, ?_, fun value hvalue => ?_⟩
  · exact (hall rfl _).2 (.inr (by decide +kernel))
  · -- the name stands there in the other spelling
    have hsame := hdistinct _ hvalue _ hmedia (by decide +kernel : Ascii.sameName "content-type" _ = true)
    exact absurd (congrArg (·.1) hsame) (show "content-type" ≠ "Content-Type" by decide)

end Answer

/-! ### The order of what was received -/

theorem Headers.merge_congr {received received' : Http.Headers}
    (hlower : ∀ x ∈ received, Ascii.lower x.1 = x.1) (hlower' : ∀ x ∈ received', Ascii.lower x.1 = x.1)
    (hvalues : ∀ name, Ascii.lower name = name → received.values name = received'.values name)
    (m : TextMap) : merge received m = merge received' m := by
  -- a map is what stands under each name, and that is the values in one line or what stood there
  apply ext_entriesOf
  intro name
  have hmerged : mergedText? received (Ascii.lower name) = mergedText? received' (Ascii.lower name) := by
    unfold mergedText? joinedText?
    rw [hvalues _ (Ascii.lower_lower name)]
  rw [entriesOf_merge hlower, entriesOf_merge hlower', hmerged]

theorem Answer.relay_congr {received received' : Http.Headers}
    (hlower : ∀ x ∈ received, Ascii.lower x.1 = x.1) (hlower' : ∀ x ∈ received', Ascii.lower x.1 = x.1)
    (hvalues : ∀ name, Ascii.lower name = name → received.values name = received'.values name)
    (status : UInt16) (body : Bytes) (mergeHeaders : Bool) :
    relay ⟨status, received, body⟩ mergeHeaders = relay ⟨status, received', body⟩ mergeHeaders := by
  have htype : contentType received = contentType received' := by
    rw [contentType_eq, contentType_eq, hvalues _ (by decide +kernel)]
  unfold relay
  rw [Headers.merge_congr hlower hlower' hvalues, htype]

theorem Http.Headers.values_lower (fields : List (String × Bytes)) {name : String}
    (hname : Ascii.lower name = name) :
    Http.Headers.values (fields.map fun f => (Ascii.lower f.1, f.2)) name =
      (fields.filter fun f => Ascii.sameName f.1 name).map (·.2) := by
  unfold Http.Headers.values Ascii.sameName
  rw [List.filter_map, List.map_map, hname]
  rfl

/-- Received fields may be rearranged as long as the values of each name, in whatever spelling, keep
their order: they are read, and neither a merged map nor a relayed answer changes. -/
theorem Answer.relay_rearranged {fields fields' : List (String × Bytes)} {headers : Http.Headers}
    (hread : fields.mapM Http.Request.checkHeader = .ok headers) (hperm : fields.Perm fields')
    (horder : ∀ name, (fields.filter fun f => Ascii.sameName f.1 name).map (·.2) =
      (fields'.filter fun f => Ascii.sameName f.1 name).map (·.2)) :
    ∃ headers', fields'.mapM Http.Request.checkHeader = .ok headers' ∧
      (∀ m, Headers.merge headers m = Headers.merge headers' m) ∧
      ∀ status body mergeHeaders,
        relay ⟨status, headers, body⟩ mergeHeaders = relay ⟨status, headers', body⟩ mergeHeaders := by
  obtain ⟨hvalid, rfl⟩ := Http.Request.mapM_checkHeader_eq_ok_iff.1 hread
  have hread' : fields'.mapM Http.Request.checkHeader =
      .ok (fields'.map fun f => (Ascii.lower f.1, f.2)) :=
    Http.Request.mapM_checkHeader_eq_ok_iff.2 ⟨fun f hf => hvalid f (hperm.mem_iff.2 hf), rfl⟩
  have hlower := Http.Request.mapM_checkHeader_lower hread
  have hlower' := Http.Request.mapM_checkHeader_lower hread'
  -- a name in lower case has the values of all its spellings
  have hvalues : ∀ name, Ascii.lower name = name →
      Http.Headers.values (fields.map fun f => (Ascii.lower f.1, f.2)) name =
        Http.Headers.values (fields'.map fun f => (Ascii.lower f.1, f.2)) name := by
    intro name hname
    rw [Http.Headers.values_lower fields hname, Http.Headers.values_lower fields' hname, horder]
  exact ⟨_, hread', Headers.merge_congr hlower hlower' hvalues, relay_congr hlower hlower' hvalues⟩

/-- Three values of one name in two spellings, between which the other fields are moved. -/
theorem Answer.relay_rearranged_spelled :
    let fields : List (String × Bytes) := [("X-A", Utf8.encode "1"), ("Content-Type", Utf8.encode "t"),
      ("x-a", [255]), ("B", Utf8.encode "4"), ("x-a", Utf8.encode "3")]
    let fields' : List (String × Bytes) := [("B", Utf8.encode "4"), ("X-A", Utf8.encode "1"),
      ("x-a", [255]), ("x-a", Utf8.encode "3"), ("Content-Type", Utf8.encode "t")]
    (∀ name, (fields.filter fun f => Ascii.sameName f.1 name).map (·.2) =
      (fields'.filter fun f => Ascii.sameName f.1 name).map (·.2)) ∧
    ∃ headers headers', fields.mapM Http.Request.checkHeader = .ok headers ∧
      fields'.mapM Http.Request.checkHeader = .ok headers' ∧ headers ≠ headers' ∧
      Headers.merge headers (.ofList [("b", "0")]) = Headers.merge headers' (.ofList [("b", "0")]) ∧
      relay ⟨200, headers, []⟩ true = relay ⟨200, headers', []⟩ true := by
  intro fields fields'
  have hread : fields.mapM Http.Request.checkHeader =
      .ok (fields.map fun f => (Ascii.lower f.1, f.2)) :=
    Http.Request.mapM_checkHeader_eq_ok_iff.2 ⟨by decide +kernel, rfl⟩
  have hperm : fields.Perm fields' := by decide +kernel
  have horder : ∀ name, (fields.filter fun f => Ascii.sameName f.1 name).map (·.2) =
      (fields'.filter fun f => Ascii.sameName f.1 name).map (·.2) := by
    have hlower : Ascii.lower "X-A" = "x-a" ∧ Ascii.lower "x-a" = "x-a" ∧ Ascii.lower "B" = "b" ∧
        Ascii.lower "Content-Type" = "content-type" := by decide +kernel
    intro name
    simp only [fields, fields', List.filter_cons, List.filter_nil, Ascii.sameName, hlower]
    -- the name is one of the three, or none
    generalize Ascii.lower name = n
    by_cases ha : "x-a" = n
    · subst ha
      decide +kernel
    · by_cases hb : "b" = n
      · subst hb
        decide +kernel
      · simp only [beq_false_of_ne ha, beq_false_of_ne hb, Bool.false_eq_true, if_false]
  obtain ⟨headers', hread', hmerge, hrelay⟩ := relay_rearranged hread hperm horder
  refine ⟨horder, _, headers', hread, hread', ?_, hmerge _, hrelay 200 [] true⟩
  obtain ⟨-, rfl⟩ := Http.Request.mapM_checkHeader_eq_ok_iff.1 hread'
  decide +kernel

end Relay
