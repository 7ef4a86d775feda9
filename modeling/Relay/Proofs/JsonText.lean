import Relay.Json.Reader
import Relay.Proofs.Text

/-!
Reading JSON that was written. A text comes back whatever its characters are, and an object comes back
when its values do and no two members share a name, compact or indented. Readers are followed by an
arbitrary rest, so the statements go together.
-/

namespace Relay.Json

/-! ### Texts -/

theorem hexValue?_hexDigitLower : ∀ n < 16, Ascii.hexValue? (Ascii.hexDigitLower n) = some n := by
  decide

theorem readUnicode_control {n : Nat} (h : n < 32) (rest : List Char) :
    readUnicode ('0' :: '0' :: Ascii.hexDigitLower (n / 16) :: Ascii.hexDigitLower (n % 16) :: rest) =
      .ok (Char.ofNat n, rest) := by
  have hzero : Ascii.hexValue? '0' = some 0 := by decide
  have hhigh := hexValue?_hexDigitLower (n / 16) (by omega)
  have hlow := hexValue?_hexDigitLower (n % 16) (by omega)
  have hhex : readHex4 ('0' :: '0' :: Ascii.hexDigitLower (n / 16) :: Ascii.hexDigitLower (n % 16) ::
      rest) = .ok (n, rest) := by
    have hsum : 4096 * 0 + 256 * 0 + 16 * (n / 16) + n % 16 = n := by omega
    simp only [readHex4, hzero, hhigh, hlow, hsum]
  unfold readUnicode
  rw [hhex]
  dsimp only [bind, Except.bind]
  rw [if_neg (by omega), if_pos (by omega)]
  rfl

theorem readText_short {e c : Char} (hu : e ≠ 'u') (h : shortEscape? e = some c) (rest : List Char) :
    readText ('\\' :: e :: rest) = (readText rest).map fun p => (c :: p.1, p.2) := by
  rw [readText.eq_5 e rest hu, h]

theorem readText_plain {c : Char} (hquote : c ≠ '"') (hslash : c ≠ '\\') (hcontrol : ¬c.toNat < 32)
    (rest : List Char) : readText (c :: rest) = (readText rest).map fun p => (c :: p.1, p.2) := by
  rw [readText.eq_6 c rest hquote (fun h => absurd h hslash) (fun _ h => absurd h hslash)
    (fun _ _ h => absurd h hslash), if_neg hcontrol]

theorem escapeChar_cases (c : Char) :
    (['"', '\\', 'b', 't', 'n', 'f', 'r'].any fun e =>
      e != 'u' && shortEscape? e == some c && escapeChar c == ['\\', e]) = true ∨
    (c.toNat < 32 ∧ escapeChar c = ['\\', 'u', '0', '0', Ascii.hexDigitLower (c.toNat / 16),
      Ascii.hexDigitLower (c.toNat % 16)]) ∨
    (c ≠ '"' ∧ c ≠ '\\' ∧ ¬c.toNat < 32 ∧ escapeChar c = [c]) := by
  by_cases hascii : c.toNat < 128
  · revert hascii
    apply forall_ascii
    decide +kernel
  · -- what is escaped has a code below that of every other character
    have hne : ∀ d : Char, d.toNat < 128 → (c == d) = false := by
      intro d hd
      rw [beq_eq_false_iff_ne]
      rintro rfl
      exact hascii hd
    have hcode : ∀ n < 128, (c.toNat == n) = false := by
      intro n hn
      rw [beq_eq_false_iff_ne]
      omega
    refine .inr (.inr ⟨?_, ?_, by omega, ?_⟩)
    · exact ne_of_beq_false (hne '"' (by decide))
    · exact ne_of_beq_false (hne '\\' (by decide))
    · unfold escapeChar
      rw [hne '"' (by decide), hne '\\' (by decide), hcode 8 (by decide), hne '\t' (by decide),
        hne '\n' (by decide), hcode 12 (by decide), hne '\r' (by decide)]
      show (if c.toNat < 32 then _ else [c]) = [c]
      exact if_neg (by omega)

theorem readText_escapeChar (c : Char) (rest : List Char) :
    readText (escapeChar c ++ rest) = (readText rest).map fun p => (c :: p.1, p.2) := by
  rcases escapeChar_cases c with hshort | ⟨hcontrol, hc⟩ | ⟨hquote, hslash, hcontrol, hc⟩
  · obtain ⟨e, -, he⟩ := List.any_eq_true.1 hshort
    obtain ⟨⟨hu, hshort⟩, hc⟩ : (e ≠ 'u' ∧ shortEscape? e = some c) ∧ escapeChar c = ['\\', e] := by
      simpa using he
    rw [hc]
    exact readText_short hu hshort rest
  · rw [hc]
    show readText ('\\' :: 'u' :: '0' :: '0' :: Ascii.hexDigitLower (c.toNat / 16) ::
      Ascii.hexDigitLower (c.toNat % 16) :: rest) = _
    rw [readText.eq_4, readUnicode_control hcontrol rest, Char.ofNat_toNat]
  · rw [hc]
    exact readText_plain hquote hslash hcontrol rest

theorem readText_quoted (cs rest : List Char) :
    readText (cs.flatMap escapeChar ++ '"' :: rest) = .ok (cs, rest) := by
  induction cs with
  | nil => exact readText.eq_2 rest
  | cons c cs ih =>
    rw [List.flatMap_cons, List.append_assoc, readText_escapeChar, ih]
    rfl

theorem readString_quoted (s : String) (rest : List Char) :
    readString (s.toList.flatMap escapeChar ++ '"' :: rest) = .ok (s, rest) := by
  unfold readString
  rw [readText_quoted]
  dsimp only [bind, Except.bind]
  rw [String.ofList_toList]
  rfl

theorem quoteChars_append (s : String) (rest : List Char) :
    quoteChars s ++ rest = '"' :: (s.toList.flatMap escapeChar ++ '"' :: rest) := by
  unfold quoteChars
  rw [List.cons_append, List.cons_append, List.append_assoc]
  rfl

/-! ### Blanks -/

theorem skipBlanks_cons {c : Char} (h : isBlankChar c = false) (cs : List Char) :
    skipBlanks (c :: cs) = c :: cs :=
  List.dropWhile_cons_of_neg (by simp [h])

theorem skipBlanks_append {blanks : List Char} (h : ∀ c ∈ blanks, isBlankChar c = true) (cs : List Char) :
    skipBlanks (blanks ++ cs) = skipBlanks cs :=
  List.dropWhile_append_of_pos h

theorem isBlankChar_newLine (level : Nat) : ∀ c ∈ newLine level, isBlankChar c = true := by
  intro c hc
  rcases List.mem_cons.1 hc with rfl | hc
  · decide
  · rw [List.eq_of_mem_replicate hc]
    decide

theorem readDocument_of_read {α : Type} {read : Reader α} {cs rest : List Char} {v : α}
    (h : read cs = .ok (v, rest)) (hrest : ∀ c ∈ rest, isBlankChar c = true) :
    readDocument read (String.ofList cs) = .ok v := by
  have hend : skipBlanks rest = [] := by
    rw [← List.append_nil rest, skipBlanks_append hrest]
    rfl
  simp only [readDocument, readWhole, String.toList_ofList, h, bind, Except.bind, hend]
  rfl

/-! ### Layouts

The members of an object may stand apart. What stands between them is blank, so it does not matter to
a reader. -/

/-- The blanks in front of each name, and in front of the closing brace. -/
structure Layout where
  gap : List Char
  close : List Char
  gap_blank : ∀ c ∈ gap, isBlankChar c = true
  close_blank : ∀ c ∈ close, isBlankChar c = true

namespace Layout

def after (l : Layout) : List (String × List Char) → List Char
  | [] => l.close ++ ['\x7d']
  | m :: members => ',' :: (l.gap ++ (quoteChars m.1 ++ ':' :: (m.2 ++ l.after members)))

/-- The members and the closing brace. Without a member there are no blanks either. -/
def members (l : Layout) : List (String × List Char) → List Char
  | [] => ['\x7d']
  | m :: members => l.gap ++ (quoteChars m.1 ++ ':' :: (m.2 ++ l.after members))

def Ends (l : Layout) (c : Char) : Prop := c = ',' ∨ (l.close ++ ['\x7d']).head? = some c

/-- A text is read as a value in front of whatever ends a member. -/
def Reads {α : Type} (l : Layout) (read : Reader α) (text : List Char) (v : α) : Prop :=
  ∀ c rest, l.Ends c → read (text ++ c :: rest) = .ok (v, c :: rest)

theorem after_cases (l : Layout) (members : List (String × List Char)) (rest : List Char) :
    ∃ c more, l.Ends c ∧ l.after members ++ rest = c :: more := by
  cases members with
  | nil =>
    -- the brace itself, if no blank stands in front of it
    cases hclose : l.close ++ ['\x7d'] with
    | nil => exact absurd hclose (by simp)
    | cons c more =>
      refine ⟨c, more ++ rest, .inr (by rw [hclose]; rfl), ?_⟩
      rw [after, hclose]
      rfl
  | cons m members => exact ⟨',', _, .inl rfl, rfl⟩

theorem length_lt_after (l : Layout) (members : List (String × List Char)) :
    members.length < (l.after members).length := by
  induction members with
  | nil => simp [after]
  | cons m members ih =>
    rw [after]
    simp only [List.length_cons, List.length_append]
    omega

def behindQuote (l : Layout) (m : String × List Char) (members : List (String × List Char))
    (rest : List Char) : List Char :=
  m.1.toList.flatMap escapeChar ++ '"' :: ':' :: (m.2 ++ (l.after members ++ rest))

theorem skipBlanks_members (l : Layout) (m : String × List Char) (members : List (String × List Char))
    (rest : List Char) :
    skipBlanks (l.members (m :: members) ++ rest) = '"' :: l.behindQuote m members rest := by
  rw [Layout.members, List.append_assoc, List.append_assoc, quoteChars_append, List.cons_append,
    List.append_assoc, skipBlanks_append l.gap_blank]
  exact skipBlanks_cons (by decide) _

theorem skipBlanks_close (l : Layout) (rest : List Char) :
    skipBlanks (l.after [] ++ rest) = '\x7d' :: rest := by
  rw [after, List.append_assoc, skipBlanks_append l.close_blank]
  exact skipBlanks_cons (by decide) rest

theorem after_cons (l : Layout) (m : String × List Char) (members : List (String × List Char)) :
    l.after (m :: members) = ',' :: l.members (m :: members) := rfl

section

variable {l : Layout} {α : Type} {read : Reader α}

theorem Reads.before_after {t : List Char} {v : α} (h : l.Reads read t v)
    (members : List (String × List Char)) (rest : List Char) :
    read (t ++ (l.after members ++ rest)) = .ok (v, l.after members ++ rest) := by
  obtain ⟨c, more, hc, hafter⟩ := l.after_cases members rest
  rw [hafter]
  exact h c more hc

theorem Reads.blank {t : List Char} {v : α} (h : l.Reads read t v)
    (hskip : ∀ cs, read (' ' :: cs) = read cs) : l.Reads read (' ' :: t) v := by
  intro c rest hc
  rw [List.cons_append, hskip]
  exact h c rest hc

theorem readMember_behindQuote {n : String} {t : List Char} {v : α} (h : l.Reads read t v)
    (members : List (String × List Char)) (rest : List Char) :
    readMember read (l.behindQuote (n, t) members rest) = .ok ((n, v), l.after members ++ rest) := by
  unfold readMember behindQuote
  rw [readString_quoted]
  show (read (t ++ (l.after members ++ rest)) >>= fun p => pure ((n, p.1), p.2)) = _
  rw [h.before_after]
  rfl

/-- The members behind the first one. Each uses up one round, so there have to be more rounds than
members. -/
theorem readMoreMembers_after {members : List (String × α)} (text : α → List Char)
    (h : ∀ m ∈ members, l.Reads read (text m.2) m.2) (rest : List Char) {fuel : Nat}
    (hfuel : members.length < fuel) :
    readMoreMembers read fuel (l.after (members.map fun m => (m.1, text m.2)) ++ rest) =
      .ok (members, rest) := by
  induction members generalizing fuel with
  | nil =>
    obtain ⟨k, rfl⟩ : ∃ k, fuel = k + 1 := ⟨fuel - 1, by omega⟩
    simp only [List.map_nil, readMoreMembers, skipBlanks_close]
  | cons m members ih =>
    obtain ⟨k, rfl⟩ : ∃ k, fuel = k + 1 := ⟨fuel - 1, by omega⟩
    obtain ⟨hm, hrest⟩ := List.forall_mem_cons.1 h
    have hmore := ih hrest (show members.length < k by simpa using hfuel)
    have hcomma := skipBlanks_cons (c := ',') (by decide)
    simp only [List.map_cons, after_cons, List.cons_append, readMoreMembers, hcomma, skipBlanks_members]
    show (readMember read _ >>= fun p => readMoreMembers read k p.2 >>= fun q =>
      pure (p.1 :: q.1, q.2)) = _
    rw [readMember_behindQuote hm]
    show (readMoreMembers read k _ >>= fun q => pure (m :: q.1, q.2)) = _
    rw [hmore]
    rfl

theorem readMembers_members {members : List (String × α)} (text : α → List Char)
    (h : ∀ m ∈ members, l.Reads read (text m.2) m.2) (rest : List Char) :
    readMembers read (l.members (members.map fun m => (m.1, text m.2)) ++ rest) = .ok (members, rest) := by
  cases members with
  | nil => rfl
  | cons m members =>
    obtain ⟨hm, hrest⟩ := List.forall_mem_cons.1 h
    have hfuel : members.length <
        (l.after (members.map fun m => (m.1, text m.2)) ++ rest).length + 1 := by
      have hlength := l.length_lt_after (members.map fun m => (m.1, text m.2))
      rw [List.length_map] at hlength
      rw [List.length_append]
      omega
    have hmore := readMoreMembers_after text hrest rest hfuel
    unfold readMembers
    rw [List.map_cons, skipBlanks_members]
    show (readMember read _ >>= fun p => readMoreMembers read (p.2.length + 1) p.2 >>= fun q =>
      pure (p.1 :: q.1, q.2)) = _
    rw [readMember_behindQuote hm]
    show (readMoreMembers read _ _ >>= fun q => pure (m :: q.1, q.2)) = _
    rw [hmore]
    rfl

end

end Layout

/-! ### Styles -/

/-- How a value is written: compact, or indented from a level on. -/
inductive Style
  | compact
  | indented (level : Nat)

namespace Style

def chars : Style → Json → List Char
  | compact, v => compactChars v
  | indented level, v => indentedChars level v

def deeper : Style → Style
  | compact => compact
  | indented level => indented (level + 1)

def valueChars : Style → Json → List Char
  | compact, v => compactChars v
  | indented level, v => ' ' :: indentedChars (level + 1) v

def layout : Style → Layout
  | compact => ⟨[], [], by simp, by simp⟩
  | indented level =>
    ⟨newLine (level + 1), newLine level, isBlankChar_newLine _, isBlankChar_newLine _⟩

def texts (s : Style) (members : List (String × Json)) : List (String × List Char) :=
  members.map fun m => (m.1, s.valueChars m.2)

theorem chars_string (s : Style) (t : String) : s.chars (.string t) = quoteChars t := by
  cases s <;> rfl

theorem chars_bool (s : Style) (b : Bool) :
    s.chars (.bool b) = (if b then "true" else "false").toList := by
  cases s <;> rfl

theorem chars_integer (s : Style) (n : Int) : s.chars (.number (.integer n)) = integerChars n := by
  cases s <;> rfl

theorem memberChars_eq (members : List (String × Json)) :
    memberChars members = compact.layout.members (compact.texts members) := by
  induction members with
  | nil => rfl
  | cons m members ih =>
    obtain ⟨n, v⟩ := m
    cases members with
    | nil =>
      rw [memberChars, List.append_assoc]
      rfl
    | cons m members =>
      rw [memberChars, ih, List.append_assoc]
      · rfl
      · exact fun h => nomatch h

theorem indentedMembers_eq (level : Nat) (m : String × Json) (members : List (String × Json)) :
    newLine (level + 1) ++ indentedMembers level (m :: members) =
      (indented level).layout.members ((indented level).texts (m :: members)) := by
  induction members generalizing m with
  | nil =>
    obtain ⟨n, v⟩ := m
    rw [indentedMembers, List.append_assoc, List.append_assoc]
    rfl
  | cons next members ih =>
    -- the blanks that follow a comma are those in front of the next member
    obtain ⟨n, v⟩ := m
    have hnext := ih next
    rw [indentedMembers]
    · simp only [List.append_assoc, List.cons_append, hnext]
      rfl
    · exact fun h => nomatch h

theorem reads_valueChars (s : Style) {α : Type} {read : Reader α} {v : Json} {x : α}
    (h : s.layout.Reads read (s.deeper.chars v) x) (hskip : ∀ cs, read (' ' :: cs) = read cs) :
    s.layout.Reads read (s.valueChars v) x := by
  cases s with
  | compact => exact h
  | indented level => exact h.blank hskip

theorem chars_object (s : Style) (members : List (String × Json)) :
    s.chars (.object members) = '\x7b' :: s.layout.members (s.texts members) := by
  cases s with
  | compact => exact congrArg ('\x7b' :: ·) (memberChars_eq members)
  | indented level =>
    cases members with
    | nil => rfl
    | cons m members => exact congrArg ('\x7b' :: ·) (indentedMembers_eq level m members)

end Style

/-! ### Compact members -/

/-- What is written of a value is read back in front of whatever ends a value. -/
def ReadsBack {α : Type} (read : Reader α) (write : α → Json) (v : α) : Prop :=
  ∀ c rest, [',', ']', '\x7d'].contains c →
    read (compactChars (write v) ++ c :: rest) = .ok (v, c :: rest)

def afterMember : List (String × Json) → List Char
  | [] => ['\x7d']
  | m :: members => ',' :: memberChars (m :: members)

theorem memberChars_cons (n : String) (v : Json) (members : List (String × Json)) :
    memberChars ((n, v) :: members) = quoteChars n ++ ':' :: (compactChars v ++ afterMember members) := by
  cases members with
  | nil => rw [memberChars, afterMember, List.append_assoc, List.cons_append]
  | cons m members =>
    rw [memberChars, afterMember, List.append_assoc, List.cons_append]
    exact fun h => nomatch h

theorem afterMember_cases (members : List (String × Json)) (rest : List Char) :
    ∃ c more, [',', ']', '\x7d'].contains c ∧ afterMember members ++ rest = c :: more := by
  cases members with
  | nil => exact ⟨'\x7d', rest, by decide, rfl⟩
  | cons m members => exact ⟨',', memberChars (m :: members) ++ rest, by decide, rfl⟩

theorem contains_of_ends {c : Char} (h : Style.compact.layout.Ends c) :
    [',', ']', '\x7d'].contains c := by
  rcases h with rfl | h
  · decide
  · obtain rfl : '\x7d' = c := Option.some.inj h
    decide

theorem ReadsBack.reads {α : Type} {read : Reader α} {write : α → Json} {v : α}
    (h : ReadsBack read write v) :
    Style.compact.layout.Reads read (Style.compact.valueChars (write v)) v := fun c rest hc =>
  h c rest (contains_of_ends hc)

/-! ### Values -/

theorem readValue_quoted (levels : Nat) (s : String) (rest : List Char) :
    readValue levels (quoteChars s ++ rest) = .ok (.string s, rest) := by
  have hscalar : readScalar (quoteChars s ++ rest) = .ok (.string s, rest) := by
    rw [quoteChars_append]
    show (readString _ >>= fun p => pure (Json.string p.1, p.2)) = _
    rw [readString_quoted]
    rfl
  rw [quoteChars_append] at hscalar ⊢
  cases levels with
  | zero => exact hscalar
  | succ levels => exact hscalar

theorem readsBack_string (levels : Nat) (s : String) : ReadsBack (readValue levels) id (.string s) := by
  intro c rest _
  exact readValue_quoted levels s (c :: rest)

theorem putMember_new {name : String} {members : List (String × Json)} (h : name ∉ members.map (·.1))
    (v : Json) : putMember name v members = members ++ [(name, v)] := by
  induction members with
  | nil => rfl
  | cons m members ih =>
    obtain ⟨hne, hrest⟩ : ¬name = m.1 ∧ name ∉ members.map (·.1) := by
      simpa using h
    rw [putMember, if_neg (fun heq => hne heq.symm), ih hrest]
    rfl

theorem foldl_putMember {members : List (String × Json)} (h : (members.map (·.1)).Nodup) :
    members.foldl (fun ms m => putMember m.1 m.2 ms) [] = members := by
  -- from the front: what has been put in so far shares no name with what is left
  have hfold : ∀ front back : List (String × Json), ((front ++ back).map (·.1)).Nodup →
      back.foldl (fun ms m => putMember m.1 m.2 ms) front = front ++ back := by
    intro front back hnames
    induction back generalizing front with
    | nil => exact (List.append_nil front).symm
    | cons m back ih =>
      have hnew : m.1 ∉ front.map (·.1) := by
        rw [List.map_append, List.map_cons, List.nodup_append] at hnames
        intro hmem
        exact hnames.2.2 _ hmem _ List.mem_cons_self rfl
      rw [List.foldl_cons, putMember_new hnew, ih (front ++ [m])]
      · exact List.append_cons front m back ▸ rfl
      · rwa [List.append_assoc]
  exact hfold [] members h

theorem Style.readValue_object (s : Style) {levels : Nat} {members : List (String × Json)}
    (hnames : (members.map (·.1)).Nodup)
    (h : ∀ m ∈ members, s.layout.Reads (readValue levels) (s.valueChars m.2) m.2) (rest : List Char) :
    readValue (levels + 1) (s.chars (.object members) ++ rest) = .ok (.object members, rest) := by
  rw [s.chars_object]
  show (readMembers (readValue levels) (s.layout.members (s.texts members) ++ rest) >>= fun p =>
    pure (Json.object (p.1.foldl (fun ms m => putMember m.1 m.2 ms) []), p.2)) = _
  rw [texts, Layout.readMembers_members s.valueChars h]
  show Except.ok (Json.object (members.foldl _ []), rest) = _
  rw [foldl_putMember hnames]

theorem readValue_object {levels : Nat} {members : List (String × Json)}
    (hnames : (members.map (·.1)).Nodup)
    (h : ∀ m ∈ members, ReadsBack (readValue levels) id m.2) (rest : List Char) :
    readValue (levels + 1) (compactChars (.object members) ++ rest) = .ok (.object members, rest) :=
  Style.compact.readValue_object hnames (fun m hm => (h m hm).reads) rest

theorem parse_compact_object {members : List (String × Json)} (hnames : (members.map (·.1)).Nodup)
    (h : ∀ m ∈ members, ReadsBack (readValue 126) id m.2) :
    parse (Json.object members).compact = .ok (.object members) := by
  have hread := readValue_object hnames h []
  rw [List.append_nil] at hread
  exact readDocument_of_read hread (by simp)

end Relay.Json
