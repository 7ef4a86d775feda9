import Relay.Url.Idna
import Relay.Proofs.Punycode
import Relay.Proofs.Text

/-!
The ASCII form of a host name is a fixed point: taken as a host name it is its own ASCII form.
Folding and composing leave ASCII alone, and each label of the form stands for the characters that it
was made from, so the rules on characters and directions see the same labels again.
-/

namespace Relay.Url.Idna

def IsNameChar (c : Char) : Prop := c.toNat < 128 ∧ isForbidden c = false

theorem IsNameChar.ne {c d : Char} (h : IsNameChar c) (hd : isForbidden d = true) : c ≠ d := by
  rintro rfl
  exact Bool.false_ne_true (h.2.symm.trans hd)

theorem isNameChar_of_isDigit {c : Char} (h : c.isDigit = true) : IsNameChar c := by
  have hrange := Char.isDigit_iff_toNat.1 h
  have hascii : c.toNat < 128 := Nat.lt_of_le_of_lt hrange.2 (by decide)
  exact ⟨hascii, forall_ascii (P := fun c => c.isDigit = true → isForbidden c = false) (by decide)
    hascii h⟩

theorem mappedChar?_eq_self {c : Char} (h : IsNameChar c) : mappedChar? c = some [c] := by
  have hupper : c.isUpper = false := by
    have hforbidden := h.2
    simp only [isForbidden, Bool.or_eq_false_iff] at hforbidden
    exact hforbidden.1.1.1
  have hkeep : mapping c = .keep := by
    simp only [mapping]
    rw [if_pos h.1, if_neg (by simp [hupper])]
  rw [mappedChar?, hkeep]

theorem ofChars_eq_self {cs : List Char} (h : ∀ c ∈ cs, c.toNat < 128) : Composed.ofChars cs = cs := by
  unfold Composed.ofChars
  rw [if_pos (by simpa using h)]

theorem mapped_eq_self {cs : List Char} (h : ∀ c ∈ cs, IsNameChar c) : mapped cs = some cs := by
  have hkeep : cs.mapM mappedChar? = some (cs.map fun c => [c]) := by
    rw [mapM_eq_some_iff, List.map_map]
    exact List.map_congr_left fun c hc => mappedChar?_eq_self (h c hc)
  have hflatten : (cs.map fun c => [c]).flatten = cs := by
    rw [← List.flatMap_def, List.flatMap_singleton']
  rw [mapped, hkeep, Option.map_some, hflatten, ofChars_eq_self fun c hc => (h c hc).1]

/-! ### Labels -/

theorem isForbidden_of_isSymbol {c : Char} (h : Punycode.IsSymbol c) :
    isForbidden c = false ∧ c ≠ '.' := by
  obtain ⟨d, hd, rfl⟩ := h
  revert d
  decide

theorem marker_isNameChar : ∀ c ∈ marker, IsNameChar c ∧ c ≠ '.' := by
  unfold IsNameChar
  exact forall_mem_of_all (by decide)

theorem encode_isNameChar {label : List Char} (hlabel : ∀ c ∈ label, isForbidden c = false)
    (hdot : '.' ∉ label) : ∀ c ∈ Punycode.encode label, IsNameChar c ∧ c ≠ '.' := by
  intro c hc
  rcases Punycode.mem_encode hc with ⟨hmem, hascii⟩ | rfl | hsymbol
  · exact ⟨⟨hascii, hlabel c hmem⟩, fun h => hdot (h ▸ hmem)⟩
  · unfold IsNameChar
    decide
  · have h := isForbidden_of_isSymbol hsymbol
    exact ⟨⟨(Punycode.isSymbol_ascii hsymbol).1, h.1⟩, h.2⟩

theorem decodeLabel?_encode {label : List Char} (hvalid : isValidLabel label = true)
    (hother : ∃ c ∈ label, 128 ≤ c.toNat) :
    decodeLabel? (marker ++ Punycode.encode label) = some label := by
  obtain ⟨last, hlast, hsymbol⟩ := Punycode.getLast?_encode hother
  have hne : Punycode.encode label ≠ [] := fun h => by simp [h] at hlast
  have hhyphen : last ≠ '-' := (Punycode.isSymbol_ascii hsymbol).2
  have hall : ¬(label.all fun c => decide (c.toNat < 128)) = true := by
    obtain ⟨c, hc, hge⟩ := hother
    simp only [List.all_eq_true, decide_eq_true_eq, not_forall]
    exact ⟨c, hc, by omega⟩
  have hprefix : marker.isPrefixOf? (marker ++ Punycode.encode label) = some (Punycode.encode label) := by
    simp [marker, List.isPrefixOf?]
  -- what is marked as encoded must not be empty, end with a hyphen, or stand for ASCII
  simp only [decodeLabel?, hprefix, Option.bind_eq_bind, Option.bind_some]
  rw [if_neg (by simp [hne, hlast, hhyphen])]
  simp only [Punycode.decode?_encode, Option.bind_some]
  rw [if_neg (by simp [hall, hvalid])]
  rfl

/-- A label's ASCII form stands for the same characters, and is its own ASCII form. -/
theorem label?_spec {label decoded ascii : List Char} (h : label? label = some (decoded, ascii))
    (hdot : '.' ∉ label) :
    label? ascii = some (decoded, ascii) ∧ ∀ c ∈ ascii, IsNameChar c ∧ c ≠ '.' := by
  have h' := h
  unfold label? at h'
  split at h'
  · simp at h'
  rename_i hforbidden
  have hlabel : ∀ c ∈ label, isForbidden c = false := by simpa using hforbidden
  split at h'
  · -- a label in ASCII is kept
    rename_i hascii
    have hsame : ascii = label := by
      split at h'
      · obtain ⟨d, -, hd⟩ := Option.map_eq_some_iff.1 h'
        exact (Prod.mk.inj hd).2.symm
      · exact (Prod.mk.inj (Option.some.inj h')).2.symm
    subst hsame
    refine ⟨h, fun c hc => ⟨⟨?_, hlabel c hc⟩, fun heq => hdot (heq ▸ hc)⟩⟩
    simpa using List.all_eq_true.1 hascii c hc
  · -- any other label is encoded, and decoding gives it back
    rename_i hascii
    split at h'
    · simp at h'
    rename_i hvalid
    obtain ⟨rfl, rfl⟩ := Prod.mk.inj (Option.some.inj h')
    have hother : ∃ c ∈ label, 128 ≤ c.toNat := by simpa using hascii
    have hchars : ∀ c ∈ marker ++ Punycode.encode label, IsNameChar c ∧ c ≠ '.' := by
      intro c hc
      exact (List.mem_append.1 hc).elim (marker_isNameChar c) (encode_isNameChar hlabel hdot c)
    have hallowed : ¬(marker ++ Punycode.encode label).any isForbidden = true := by
      rw [List.any_eq_true]
      rintro ⟨c, hc, hbad⟩
      exact Bool.false_ne_true ((hchars c hc).1.2.symm.trans hbad)
    have hall : (marker ++ Punycode.encode label).all (·.toNat < 128) = true :=
      List.all_eq_true.2 fun c hc => decide_eq_true (hchars c hc).1.1
    refine ⟨?_, hchars⟩
    unfold label?
    rw [if_neg hallowed, if_pos hall, if_pos (by simp),
      decodeLabel?_encode (by simpa using fun hn => hvalid (.inl hn)) hother]
    rfl

theorem label?_eq_self {label : List Char} (h : ∀ c ∈ label, IsNameChar c)
    (hmarker : marker.isPrefixOf label = false) : label? label = some (label, label) := by
  unfold label?
  rw [if_neg (by simpa using fun c hc => (h c hc).2), if_pos (by simpa using fun c hc => (h c hc).1),
    if_neg (by simp [hmarker])]

/-! ### Names -/

/-- The ASCII form of a name is its own ASCII form. -/
theorem toAscii?_spec {cs name : List Char} (h : toAscii? cs = some name) :
    toAscii? name = some name ∧ ∀ c ∈ name, IsNameChar c := by
  simp only [toAscii?, Option.bind_eq_bind, Option.bind_eq_some_iff] at h
  obtain ⟨folded, -, labels, hlabels, h⟩ := h
  rw [mapM_eq_some_iff] at hlabels
  have hspec : ∀ l ∈ labels, label? l.2 = some l ∧ ∀ c ∈ l.2, IsNameChar c ∧ c ≠ '.' := by
    intro l hl
    have hmem : some l ∈ (folded.splitOn '.').map label? := hlabels ▸ List.mem_map_of_mem hl
    obtain ⟨label, hlabel, heq⟩ := List.mem_map.1 hmem
    exact label?_spec heq fun hdot => by simpa using (mem_of_mem_splitOnP hlabel '.' hdot).2
  have hne : labels ≠ [] := by
    rintro rfl
    exact List.splitOn_ne_nil '.' folded (List.map_eq_nil_iff.1 hlabels)
  split at h
  · simp at h
  rename_i hdirections
  obtain rfl := Option.some.inj h
  have hchars : ∀ c ∈ ['.'].intercalate (labels.map (·.2)), IsNameChar c := by
    intro c hc
    rcases mem_intercalate hc with hc | ⟨l, hl, hc⟩
    · obtain rfl := List.mem_singleton.1 hc
      unfold IsNameChar
      decide
    · obtain ⟨p, hp, rfl⟩ := List.mem_map.1 hl
      exact ((hspec p hp).2 c hc).1
  refine ⟨?_, hchars⟩
  -- no label holds a dot, so cutting the form at its dots gives its labels
  have hsplit : (['.'].intercalate (labels.map (·.2))).splitOn '.' = labels.map (·.2) := by
    refine List.splitOn_intercalate '.' (fun l hl => ?_) (by simpa using hne)
    obtain ⟨p, hp, rfl⟩ := List.mem_map.1 hl
    exact fun hdot => ((hspec p hp).2 '.' hdot).2 rfl
  have hagain : (labels.map (·.2)).mapM label? = some labels := by
    rw [mapM_eq_some_iff, List.map_map]
    exact List.map_congr_left fun l hl => (hspec l hl).1
  -- the rule on directions sees what the labels stand for, which is what it saw before
  simp only [toAscii?, mapped_eq_self hchars, Option.bind_eq_bind, Option.bind_some, hsplit, hagain]
  rw [if_neg hdirections]
  rfl

theorem toAscii?_eq_self {name : List Char} (h : ∀ c ∈ name, IsNameChar c)
    (hmarker : ∀ l ∈ name.splitOn '.', marker.isPrefixOf l = false) : toAscii? name = some name := by
  have hlabels : (name.splitOn '.').mapM label? = some ((name.splitOn '.').map fun l => (l, l)) := by
    rw [mapM_eq_some_iff, List.map_map]
    exact List.map_congr_left fun l hl =>
      label?_eq_self (fun c hc => h c (mem_of_mem_splitOnP hl c hc).1) (hmarker l hl)
  have hleft : ∀ l ∈ (name.splitOn '.').map fun l => (l, l), ∀ c ∈ l.1, isRightToLeft c = false := by
    intro l hl c hc
    obtain ⟨k, hk, rfl⟩ := List.mem_map.1 hl
    have hascii := (h c (mem_of_mem_splitOnP hk c hc).1).1
    simp [isRightToLeft, Nat.not_le.2 hascii]
  have hnone : ((name.splitOn '.').map fun l => (l, l)).any (fun l => l.1.any isRightToLeft) = false := by
    simpa using hleft
  simp only [toAscii?, mapped_eq_self h, hlabels, Option.bind_eq_bind, Option.bind_some, hnone]
  rw [if_neg (by simp), List.map_map]
  simp only [Function.comp_def, List.map_id', List.intercalate_splitOn]
  rfl

end Relay.Url.Idna
