import Relay.Invoke
import Relay.Proofs.Base64
import Relay.Proofs.JsonValue
import Relay.Proofs.Record

/-!
What is printed of an answer. Compact or indented, it is an object with four members, and all of the
answer comes back from it, whatever its headers and its body hold. So the bytes that were received are
there for whoever reads what was printed.
-/

namespace Relay

/-! ### Values in either style -/

namespace Json

theorem Style.endsNumber (s : Style) {c : Char} (h : s.layout.Ends c) (rest : List Char) :
    EndsNumber (c :: rest) := by
  apply EndsNumber.cons
  rcases h with rfl | h
  · decide
  · cases s with
    | compact =>
      obtain rfl : '\x7d' = c := Option.some.inj h
      decide
    | indented level =>
      obtain rfl : '\n' = c := Option.some.inj h
      decide

theorem word16Field_integerChars (n : UInt16) {rest : List Char} (hrest : EndsNumber rest) :
    word16Field (integerChars n.toNat ++ rest) = .ok (n, rest) := by
  have hn : n.toNat < 65536 := n.toNat_lt
  have hdigits : integerChars n.toNat = Nat.toDigits 10 n.toNat := if_neg (by omega)
  have hnumber := readNumber_toDigits false (n := n.toNat) (by omega) hrest
  obtain ⟨c, cs, hlist, hc⟩ := toDigits_start n.toNat
  have hstart : valueStart (c :: (cs ++ rest)) = .ok (c :: (cs ++ rest)) := by
    unfold valueStart
    rw [skipBlanks_cons (isBlankChar_of_isDigit hc)]
  rw [hlist, List.cons_append] at hnumber
  rw [hdigits, hlist, List.cons_append]
  -- what begins with a digit is read as a number without a sign
  unfold word16Field
  rw [hstart]
  dsimp only [bind, Except.bind]
  split
  · rename_i h
    exact absurd (List.cons.inj h).1 (ne_of_isDigit hc (by decide))
  · rename_i h
    obtain ⟨rfl, rfl⟩ := List.cons.inj h
    rw [if_pos hc, hnumber]
    show (if 0 ≤ (n.toNat : Int) ∧ (n.toNat : Int) < 65536 then
      Except.ok (UInt16.ofNat (n.toNat : Int).toNat, rest) else _) = _
    rw [if_pos (by omega), Int.toNat_natCast, UInt16.ofNat_toNat]
  · rename_i h
    cases h

theorem readValue_headersJson (s : Style) (levels : Nat) (m : TextMap) (rest : List Char) :
    readValue (levels + 1) (s.chars (Answer.headersJson m) ++ rest) = .ok (Answer.headersJson m, rest) := by
  unfold Answer.headersJson
  apply s.readValue_object
  · rw [List.map_map]
    exact m.nodup_keys
  · intro member hmember
    obtain ⟨e, -, rfl⟩ := List.mem_map.1 hmember
    apply s.reads_valueChars
    · rw [s.deeper.chars_string]
      exact fun c more _ => readValue_quoted levels e.2 (c :: more)
    · cases levels <;> exact fun cs => rfl

end Json

namespace Answer

open Json (Style Layout isBlankChar)

/-! ### Reading an answer back -/

theorem field_reads {l : Layout} {α : Type} {name : String} {isSet : Draft → Bool} {read : Json.Reader α}
    {put : Draft → α → Draft} {text : List Char} {v : α} (h : l.Reads read text v) (d : Draft) :
    l.Reads ((field name isSet read put).read d) text (put d v) := by
  intro c rest hc
  show (read (text ++ c :: rest) >>= fun p => pure (put d p.1, p.2)) = _
  rw [h c rest hc]
  rfl

def draftOf (a : Answer) : Draft := ⟨some a.status, some a.headers, some a.body, some a.isBase64Encoded⟩

theorem schema_reads (a : Answer) (s : Style) (rest : List Char) :
    schema.read {} (s.chars a.toJson ++ rest) = .ok (a.draftOf, rest) := by
  -- a blank behind the colon is passed over by the reader of each field
  have hstatus : s.layout.Reads Json.word16Field (s.valueChars (.number (.integer a.status.toNat)))
      a.status := by
    apply s.reads_valueChars _ fun cs => rfl
    rw [s.deeper.chars_integer]
    exact fun c more hc => Json.word16Field_integerChars a.status (s.endsNumber hc more)
  have hheaders : s.layout.Reads Json.mapField (s.valueChars (headersJson a.headers)) a.headers := by
    apply s.reads_valueChars _ fun cs => rfl
    exact fun c more _ => Json.mapField_chars s.deeper a.headers (c :: more)
  have hbody : s.layout.Reads Json.textField (s.valueChars (.string a.body)) a.body := by
    apply s.reads_valueChars _ fun cs => rfl
    rw [s.deeper.chars_string]
    exact fun c more _ => Json.textField_quoted a.body (c :: more)
  have hflag : s.layout.Reads Json.flagField (s.valueChars (.bool a.isBase64Encoded))
      a.isBase64Encoded := by
    apply s.reads_valueChars _ fun cs => rfl
    rw [s.deeper.chars_bool]
    exact fun c more _ => Json.flagField_word a.isBase64Encoded (c :: more)
  unfold toJson
  rw [s.chars_object, List.cons_append]
  refine Json.Schema.read_in ?_ (fun rest => rfl) rest
  refine .cons _ rfl rfl (field_reads hstatus _) ?_
  refine .cons _ rfl rfl (field_reads hheaders _) ?_
  refine .cons _ rfl rfl (field_reads hbody _) ?_
  refine .cons _ rfl rfl (field_reads hflag _) ?_
  exact .nil _

theorem ofJsonText_chars (a : Answer) (s : Style) {blanks : List Char}
    (h : ∀ c ∈ blanks, isBlankChar c = true) :
    ofJsonText (String.ofList (s.chars a.toJson ++ blanks)) = .ok a := by
  unfold ofJsonText
  rw [Json.readDocument_of_read (a.schema_reads s blanks) h]
  rfl

theorem readValue_toJson (a : Answer) (s : Style) (rest : List Char) :
    Json.readValue Json.maxDepth (s.chars a.toJson ++ rest) = .ok (a.toJson, rest) := by
  have hfits : (Json.Number.integer a.status.toNat).Fits := by
    have hstatus := a.status.toNat_lt
    constructor <;> omega
  unfold toJson
  apply s.readValue_object (by simp)
  intro m hm
  apply s.reads_valueChars _ fun cs => rfl
  simp only [List.mem_cons, List.not_mem_nil, or_false] at hm
  rcases hm with rfl | rfl | rfl | rfl
  · rw [s.deeper.chars_integer]
    exact fun c more hc => Json.readValue_integer 126 hfits (s.endsNumber hc more)
  · exact fun c more _ => Json.readValue_headersJson s.deeper 125 a.headers (c :: more)
  · rw [s.deeper.chars_string]
    exact fun c more _ => Json.readValue_quoted 126 a.body (c :: more)
  · rw [s.deeper.chars_bool]
    intro c more _
    cases a.isBase64Encoded <;> rfl

theorem parse_chars (a : Answer) (s : Style) {blanks : List Char}
    (h : ∀ c ∈ blanks, isBlankChar c = true) :
    Json.parse (String.ofList (s.chars a.toJson ++ blanks)) = .ok a.toJson :=
  Json.readDocument_of_read (a.readValue_toJson s blanks) h

/-! ### Printing -/

theorem printed_eq (given : CommandLine.Given) (a : Answer) :
    ∃ s : Style, Invoke.printed given a = String.ofList (s.chars a.toJson ++ ['\n']) := by
  unfold Invoke.printed
  split
  · exact ⟨.indented 0, String.ofList_append.symm⟩
  · exact ⟨.compact, String.ofList_append.symm⟩

theorem ofJsonText_printed (a : Answer) (given : CommandLine.Given) :
    ofJsonText (Invoke.printed given a) = .ok a := by
  obtain ⟨s, hprinted⟩ := printed_eq given a
  rw [hprinted]
  exact a.ofJsonText_chars s (Json.isBlankChar_newLine 0)

theorem ofJsonText_output_iff (a : Answer) (s : Invoke.Surroundings) (net : Network) :
    ofJsonText (Invoke.run s net).output = .ok a ↔
      ∃ given record, CommandLine.parse Invoke.options s.args = .ok given ∧
        Invoke.answer s net given = .ok (some a, record) := by
  -- without an answer nothing is printed, and nothing cannot be read
  have hempty : ofJsonText "" ≠ .ok a := fun h => nomatch h
  constructor
  · intro hread
    unfold Invoke.run at hread
    split at hread
    · exact absurd hread hempty
    · exact absurd hread hempty
    · rename_i given hgiven
      split at hread
      · exact absurd hread hempty
      · rename_i result record hanswer
        cases result with
        | none => exact absurd hread hempty
        | some b =>
          have hback : ofJsonText (Invoke.printed given b) = .ok a := hread
          rw [ofJsonText_printed] at hback
          obtain rfl : b = a := Except.ok.inj hback
          exact ⟨given, record, hgiven, hanswer⟩
  · rintro ⟨given, record, hgiven, hanswer⟩
    have hrun : (Invoke.run s net).output = Invoke.printed given a := by
      unfold Invoke.run
      rw [hgiven]
      dsimp only
      rw [hanswer]
      rfl
    rw [hrun]
    exact ofJsonText_printed a given

/-- Whatever an answer holds, it is read back from its compact text, from its indented text and from what
is printed of it; and what is printed is an object with these four members. So an answer that relays what
was received comes back with a body that decodes to the bytes received. The output of the one-shot program
can be read as an answer exactly if it has one, and then it is that answer. -/
theorem printed_readable (a : Answer) :
    ofJsonText a.toJson.compact = .ok a ∧ ofJsonText a.toJson.indented = .ok a ∧
    (∀ given, ofJsonText (Invoke.printed given a) = .ok a ∧
      Json.parse (Invoke.printed given a) = .ok (.object
        [("statusCode", .number (.integer a.status.toNat)),
          ("headers", .object (a.headers.entries.map fun e => (e.1, .string e.2))),
          ("body", .string a.body), ("isBase64Encoded", .bool a.isBase64Encoded)])) ∧
    (∀ received mergeHeaders given, ∃ back,
      ofJsonText (Invoke.printed given (relay received mergeHeaders)) = .ok back ∧
      back.status = received.status ∧ back.isBase64Encoded = true ∧
      Base64.decodeText back.body = .ok received.body ∧ back.decodedBody = .ok received.body) ∧
    (∀ s net, ofJsonText (Invoke.run s net).output = .ok a ↔
      ∃ given record, CommandLine.parse Invoke.options s.args = .ok given ∧
        Invoke.answer s net given = .ok (some a, record)) := by
  have hstyle : ∀ s : Style, ofJsonText (String.ofList (s.chars a.toJson)) = .ok a := by
    intro s
    rw [← List.append_nil (s.chars a.toJson)]
    exact a.ofJsonText_chars s (by simp)
  refine ⟨hstyle .compact, hstyle (.indented 0), ?_, ?_, a.ofJsonText_output_iff⟩
  · intro given
    obtain ⟨s, hprinted⟩ := printed_eq given a
    refine ⟨a.ofJsonText_printed given, ?_⟩
    rw [hprinted]
    exact a.parse_chars s (Json.isBlankChar_newLine 0)
  · intro received mergeHeaders given
    have hbody : Base64.decodeText (relay received mergeHeaders).body = .ok received.body :=
      Base64.decodeText_encode received.body
    exact ⟨_, ofJsonText_printed _ given, rfl, rfl, hbody, hbody⟩

/-- A status that cannot be sent, no headers, and a body with a quote, a letter of two bytes and the end
of a line. -/
example :
    (ofJsonText ("\x7b\n  \"statusCode\": 65535,\n  \"headers\": \x7b\x7d,\n" ++
      "  \"body\": \"\\\"ü\\n\",\n  \"isBase64Encoded\": false\n\x7d\n")).toOption =
        some ⟨65535, .empty, "\"ü\n", false⟩ := by
  decide +kernel

end Answer

end Relay
