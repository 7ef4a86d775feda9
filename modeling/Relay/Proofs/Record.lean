import Relay.Event
import Relay.Proofs.JsonText
import Relay.Proofs.TextMap

/-!
Records that are read as they were written. The members of an object are read one after another into a
draft, and each has to find a field that is still open. For an event this gives the whole format: the
text that is written of an event is read as that event.
-/

namespace Relay

/-! ### Fields -/

namespace Json

theorem textField_quoted (s : String) (rest : List Char) :
    textField (quoteChars s ++ rest) = .ok (s, rest) := by
  rw [quoteChars_append]
  exact readString_quoted s rest

theorem flagField_word (b : Bool) (rest : List Char) :
    flagField ((if b then "true" else "false").toList ++ rest) = .ok (b, rest) := by
  cases b <;> rfl

theorem readsBack_textField (s : String) : ReadsBack textField Json.string s := fun c rest _ =>
  textField_quoted s (c :: rest)

theorem readsBack_flagField (b : Bool) : ReadsBack flagField Json.bool b := fun c rest _ =>
  flagField_word b (c :: rest)

theorem mapField_chars (s : Style) (m : TextMap) (rest : List Char) :
    mapField (s.chars (Answer.headersJson m) ++ rest) = .ok (m, rest) := by
  have hreads : ∀ e ∈ m.entries, s.layout.Reads textField (s.valueChars (.string e.2)) e.2 := by
    intro e _
    apply s.reads_valueChars _ fun cs => rfl
    rw [s.deeper.chars_string]
    intro c more _
    exact textField_quoted e.2 (c :: more)
  have hmembers := Layout.readMembers_members (fun v => s.valueChars (.string v)) hreads rest
  have htexts : s.texts (m.entries.map fun e => (e.1, .string e.2)) =
      m.entries.map fun e => (e.1, s.valueChars (.string e.2)) := List.map_map
  unfold Answer.headersJson
  rw [s.chars_object, htexts]
  show (readMembers textField (_ ++ rest) >>= fun p => pure (TextMap.ofList p.1, p.2)) = _
  rw [hmembers]
  show Except.ok (TextMap.ofList m.entries, rest) = _
  rw [TextMap.ofList_entries]

theorem readsBack_mapField (m : TextMap) : ReadsBack mapField Answer.headersJson m := fun c rest _ =>
  mapField_chars .compact m (c :: rest)

theorem readsBack_optional {α : Type} {read : Reader α} {write : α → Json}
    (h : ∀ v, ReadsBack read write v)
    (hstart : ∀ v, ∃ c cs, compactChars (write v) = c :: cs ∧ c ≠ 'n' ∧ isBlankChar c = false)
    (o : Option α) : ReadsBack (optional read) (fun o => (o.map write).getD .null) o := by
  intro c rest hc
  cases o with
  | none => rfl
  | some v =>
    obtain ⟨d, ds, hchars, hd, hblank⟩ := hstart v
    have hread := h v c rest hc
    show optional read (compactChars (write v) ++ c :: rest) = _
    rw [hchars, List.cons_append] at hread ⊢
    unfold optional
    rw [skipBlanks_cons hblank]
    split
    · rename_i more heq
      exact absurd (List.cons.inj heq).1 hd
    · rw [hread]
      rfl

/-! ### Records -/

namespace Schema

variable {δ : Type}

/-- Reading the members in order leads from one draft to another: each has a field, which is still
open and reads the text of its value. -/
inductive ReadsIn (s : Schema δ) (l : Layout) : δ → List (String × List Char) → δ → Prop
  | nil (draft : δ) : ReadsIn s l draft [] draft
  | cons {draft next last : δ} {name : String} {text : List Char} {members : List (String × List Char)}
    (f : Field δ) (hfind : s.fields.find? (·.name == name) = some f) (hopen : f.isSet draft = false)
    (hread : l.Reads (f.read draft) text next) (hmore : ReadsIn s l next members last) :
    ReadsIn s l draft ((name, text) :: members) last

section

variable {s : Schema δ} {l : Layout} {draft last : δ} {members : List (String × List Char)} {name : String}
  {f : Field δ}

theorem readField_opened (hfind : s.fields.find? (·.name == name) = some f) (hopen : f.isSet draft = false)
    (text : List Char) :
    s.readField draft (name.toList.flatMap escapeChar ++ '"' :: ':' :: text) = f.read draft text := by
  unfold readField
  rw [readString_quoted]
  dsimp only [bind, Except.bind]
  rw [hfind]
  dsimp only
  rw [hopen]
  rfl

theorem readMoreFields_in (h : s.ReadsIn l draft members last)
    (hcomplete : ∀ rest, s.finish last rest = .ok (last, rest)) (rest : List Char) {fuel : Nat}
    (hfuel : members.length < fuel) :
    s.readMoreFields fuel draft (l.after members ++ rest) = .ok (last, rest) := by
  -- each member uses up one round
  induction h generalizing fuel with
  | nil draft =>
    obtain ⟨k, rfl⟩ : ∃ k, fuel = k + 1 := ⟨fuel - 1, by omega⟩
    simp only [readMoreFields, l.skipBlanks_close]
    exact hcomplete rest
  | @cons draft next last name text members f hfind hopen hread hmore ih =>
    obtain ⟨k, rfl⟩ : ∃ k, fuel = k + 1 := ⟨fuel - 1, by omega⟩
    have hrest := ih hcomplete (show members.length < k by simpa using hfuel)
    have hcomma := skipBlanks_cons (c := ',') (by decide)
    simp only [l.after_cons, List.cons_append, readMoreFields, hcomma, l.skipBlanks_members]
    show (s.readField draft _ >>= fun p => s.readMoreFields k p.1 p.2) = _
    rw [Layout.behindQuote, readField_opened hfind hopen, hread.before_after]
    exact hrest

theorem read_in (h : s.ReadsIn l draft members last)
    (hcomplete : ∀ rest, s.finish last rest = .ok (last, rest)) (rest : List Char) :
    s.read draft ('\x7b' :: (l.members members ++ rest)) = .ok (last, rest) := by
  show s.readObject draft (l.members members ++ rest) = _
  cases h with
  | nil => exact hcomplete rest
  | @cons next _ _ name text members f hfind hopen hread hmore =>
    have hfuel : members.length < (l.after members ++ rest).length + 1 := by
      have hlength := l.length_lt_after members
      rw [List.length_append]
      omega
    have hrest := readMoreFields_in hmore hcomplete rest hfuel
    unfold readObject
    rw [l.skipBlanks_members]
    show (s.readField draft _ >>= fun p => s.readMoreFields (p.2.length + 1) p.1 p.2) = _
    rw [Layout.behindQuote, readField_opened hfind hopen, hread.before_after]
    exact hrest

end

inductive Reads (s : Schema δ) : δ → List (String × Json) → δ → Prop
  | nil (draft : δ) : Reads s draft [] draft
  | cons {draft next last : δ} {name : String} {v : Json} {members : List (String × Json)} (f : Field δ)
    (hfind : s.fields.find? (·.name == name) = some f) (hopen : f.isSet draft = false)
    (hread : ∀ c rest, [',', ']', '\x7d'].contains c →
      f.read draft (compactChars v ++ c :: rest) = .ok (next, c :: rest))
    (hmore : Reads s next members last) : Reads s draft ((name, v) :: members) last

variable {s : Schema δ} {draft next last : δ} {members : List (String × Json)}

theorem Reads.readsIn (h : s.Reads draft members last) :
    s.ReadsIn Style.compact.layout draft (Style.compact.texts members) last := by
  induction h with
  | nil draft => exact .nil draft
  | cons f hfind hopen hread hmore ih =>
    exact .cons f hfind hopen (fun c rest hc => hread c rest (contains_of_ends hc)) ih

theorem readField_before {name : String} {v : Json} {f : Field δ}
    (hfind : s.fields.find? (·.name == name) = some f) (hopen : f.isSet draft = false)
    (hread : ∀ c rest, [',', ']', '\x7d'].contains c →
      f.read draft (compactChars v ++ c :: rest) = .ok (next, c :: rest))
    {c : Char} (hc : [',', ']', '\x7d'].contains c) (rest : List Char) :
    s.readField draft (name.toList.flatMap escapeChar ++ '"' :: ':' :: (compactChars v ++ c :: rest)) =
      .ok (next, c :: rest) := by
  rw [readField_opened hfind hopen]
  exact hread c rest hc

theorem readDocument_written (h : s.Reads draft members last)
    (hcomplete : ∀ rest, s.finish last rest = .ok (last, rest)) :
    readDocument (s.read draft) (Json.object members).compact = .ok last := by
  have hread := read_in h.readsIn hcomplete []
  rw [← List.cons_append, ← Style.chars_object, List.append_nil] at hread
  exact readDocument_of_read hread (by simp)

end Schema

end Json

/-! ### Events -/

namespace Event

open Json (ReadsBack)

theorem field_read {α : Type} {name : String} {required : Bool} {isSet : Draft → Bool}
    {read : Json.Reader α} {put : Draft → α → Draft} {write : α → Json} {v : α}
    (h : ReadsBack read write v) (d : Draft) (c : Char) (rest : List Char)
    (hc : [',', ']', '\x7d'].contains c) :
    (field name required isSet read put).read d (Json.compactChars (write v) ++ c :: rest) =
      .ok (put d v, c :: rest) := by
  show (read (Json.compactChars (write v) ++ c :: rest) >>= fun p => pure (put d p.1, p.2)) = _
  rw [h c rest hc]
  rfl

theorem readsBack_optionalMap (m : Option TextMap) :
    ReadsBack (Json.optional Json.mapField) (fun m => (m.map Answer.headersJson).getD .null) m := by
  apply Json.readsBack_optional Json.readsBack_mapField
  intro m
  exact ⟨'\x7b', Json.memberChars (m.entries.map fun e => (e.1, .string e.2)), rfl, by decide, by decide⟩

theorem readsBack_optionalText (s : Option String) :
    ReadsBack (Json.optional Json.textField) (fun s => (s.map Json.string).getD .null) s := by
  apply Json.readsBack_optional Json.readsBack_textField
  intro s
  exact ⟨'"', s.toList.flatMap Json.escapeChar ++ ['"'], rfl, by decide, by decide⟩

def draftOf (e : Event) : Draft :=
  ⟨some e.method, some e.path, some e.query, some e.headers, some e.body, some e.isBase64Encoded⟩

theorem ofJsonText_compact (e : Event) : ofJsonText e.toJson.compact = .ok e := by
  have hmethod := Json.readsBack_textField e.method
  have hpath := Json.readsBack_textField e.path
  have hquery := readsBack_optionalMap e.query
  have hheaders := readsBack_optionalMap e.headers
  have hbody := readsBack_optionalText e.body
  have hflag := Json.readsBack_flagField e.isBase64Encoded
  have hreads : schema.Reads {} [("httpMethod", .string e.method), ("path", .string e.path),
      ("queryStringParameters", (e.query.map Answer.headersJson).getD .null),
      ("headers", (e.headers.map Answer.headersJson).getD .null),
      ("body", (e.body.map Json.string).getD .null), ("isBase64Encoded", .bool e.isBase64Encoded)]
      e.draftOf := by
    refine .cons _ rfl rfl (field_read hmethod _) ?_
    refine .cons _ rfl rfl (field_read hpath _) ?_
    refine .cons _ rfl rfl (field_read hquery _) ?_
    refine .cons _ rfl rfl (field_read hheaders _) ?_
    refine .cons _ rfl rfl (field_read hbody _) ?_
    refine .cons _ rfl rfl (field_read hflag _) ?_
    exact .nil _
  have hcomplete : ∀ rest, schema.finish e.draftOf rest = .ok (e.draftOf, rest) := fun rest => rfl
  unfold ofJsonText toJson
  rw [Json.Schema.readDocument_written hreads hcomplete]
  cases e
  rfl

end Event

end Relay
