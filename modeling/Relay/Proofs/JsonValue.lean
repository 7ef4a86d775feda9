import Mathlib.Data.List.Basic
import Relay.Proofs.JsonText
import Relay.Proofs.Reader

/-!
Values that were read are read again from what is written of them. Reading gives integers of 64 bits,
objects in which no name stands twice, and lists and objects that are nested no deeper than was allowed;
and each such value without floats comes back from its compact form, in front of whatever ends a value.
-/

namespace Relay.Json

/-! ### What reading gives -/

def Number.Fits : Number → Prop
  | .integer n => -0x8000000000000000 ≤ n ∧ n < 0x10000000000000000
  | .float _ => True

/-- Values as they are read with room for some levels of lists and objects. -/
inductive Fits : Nat → Json → Prop
  | null (levels : Nat) : Fits levels .null
  | bool (levels : Nat) (b : Bool) : Fits levels (.bool b)
  | number (levels : Nat) {n : Number} (h : n.Fits) : Fits levels (.number n)
  | string (levels : Nat) (s : String) : Fits levels (.string s)
  | array {levels : Nat} {items : List Json} (h : ∀ v ∈ items, Fits levels v) :
    Fits (levels + 1) (.array items)
  | object {levels : Nat} {members : List (String × Json)} (hnames : (members.map (·.1)).Nodup)
    (h : ∀ m ∈ members, Fits levels m.2) : Fits (levels + 1) (.object members)

def Gives {α : Type} (read : Reader α) (P : α → Prop) : Prop :=
  ∀ cs v rest, read cs = .ok (v, rest) → P v

/-! Numbers -/

theorem takeDigits_lt {n m count : Nat} {cs rest : List Char} (h : takeDigits n cs = (m, count, rest))
    (hn : n < 0x10000000000000000) : m < 0x10000000000000000 := by
  induction cs generalizing n m count rest with
  | nil =>
    cases h
    exact hn
  | cons c cs ih =>
    rw [takeDigits] at h
    dsimp only at h
    split at h
    · rename_i hnext
      cases h
      exact ih rfl hnext.2
    · cases h
      exact hn

theorem wholeNumber_fits (negative : Bool) {n : Nat} (h : n < 0x10000000000000000) :
    (wholeNumber negative n).Fits := by
  unfold wholeNumber
  split
  · show -0x8000000000000000 ≤ (n : Int) ∧ (n : Int) < 0x10000000000000000
    omega
  split
  · trivial
  · rename_i hrange
    show -0x8000000000000000 ≤ -(n : Int) ∧ -(n : Int) < 0x10000000000000000
    omega

section

variable {negative : Bool} {n : Nat} {x : Number × List Char}

/-! Whatever has a fraction or an exponent is a float. -/

theorem floatOf_fits {e : Int} {rest : List Char} (h : floatOf negative n e rest = .ok x) : x.1.Fits := by
  unfold floatOf at h
  split at h
  · cases h
    trivial
  · cases h

theorem readExponent_fits {start : Int} {cs : List Char} (h : readExponent negative n start cs = .ok x) :
    x.1.Fits := by
  -- an exponent beyond the bound leaves zero or nothing
  have hbeyond : ∀ (p : Prop) [Decidable p] (f : Binary64) (place rest : List Char),
      (if p then failAt .numberOutOfRange place else .ok (Number.float f, rest)) = .ok x → x.1.Fits := by
    intro p _ f place rest h
    split at h
    · cases h
    · cases h
      trivial
  unfold readExponent at h
  dsimp only at h
  split at h
  · cases h
  split at h
  · cases h
  split at h
  · exact floatOf_fits h
  · exact hbeyond _ _ _ _ h

theorem readOptionalExponent_fits {e : Int} {cs : List Char}
    (h : readOptionalExponent negative n e cs = .ok x) : x.1.Fits := by
  unfold readOptionalExponent at h
  split at h
  · exact readExponent_fits h
  · exact readExponent_fits h
  · exact floatOf_fits h

theorem readFraction_fits {e : Int} {cs : List Char} (h : readFraction negative n e cs = .ok x) :
    x.1.Fits := by
  unfold readFraction at h
  dsimp only at h
  split at h
  · exact readOptionalExponent_fits h
  split at h
  · cases h
  · exact readOptionalExponent_fits h

theorem readNumberTail_fits {e : Nat} {long : Bool} {cs : List Char} (hn : n < 0x10000000000000000)
    (h : readNumberTail negative n e long cs = .ok x) : x.1.Fits := by
  unfold readNumberTail at h
  split at h
  · exact readFraction_fits h
  · exact readExponent_fits h
  · exact readExponent_fits h
  split at h
  · exact floatOf_fits h
  · cases h
    exact wholeNumber_fits negative hn

end

theorem readNumber_fits (negative : Bool) : Gives (readNumber negative) Number.Fits := by
  intro cs n rest h
  unfold readNumber at h
  split at h
  · cases h
  · split at h
    · cases h
    · exact readNumberTail_fits (by decide) h
  · rename_i c cs _
    split at h
    · -- what is taken stays below the bound, from zero on
      have htaken : takeDigits 0 (c :: cs) = (_, _, _) := rfl
      exact readNumberTail_fits (takeDigits_lt htaken (by decide)) h
    · cases h

/-! Lists and objects of what satisfies a condition. -/

section

variable {α : Type} {read : Reader α} {P : α → Prop} (hread : Gives read P)

include hread

theorem readMoreItems_gives (fuel : Nat) : Gives (readMoreItems read fuel) fun items => ∀ v ∈ items, P v := by
  induction fuel with
  | zero =>
    intro cs items rest h
    cases h
  | succ fuel ih =>
    intro cs items rest h
    rw [readMoreItems] at h
    split at h
    · cases h
      simp
    · split at h
      · cases h
      · cases h
      · obtain ⟨⟨v, afterItem⟩, hv, h⟩ := bind_eq_ok.1 h
        obtain ⟨⟨more, last⟩, hmore, h⟩ := bind_eq_ok.1 h
        cases h
        exact List.forall_mem_cons.2 ⟨hread _ _ _ hv, ih _ _ _ hmore⟩
    · cases h
    · cases h

theorem readItems_gives : Gives (readItems read) fun items => ∀ v ∈ items, P v := by
  intro cs items rest h
  unfold readItems at h
  split at h
  · cases h
  · cases h
    simp
  · obtain ⟨⟨v, afterItem⟩, hv, h⟩ := bind_eq_ok.1 h
    obtain ⟨⟨more, last⟩, hmore, h⟩ := bind_eq_ok.1 h
    cases h
    exact List.forall_mem_cons.2 ⟨hread _ _ _ hv, readMoreItems_gives hread _ _ _ _ hmore⟩

theorem readMember_gives : Gives (readMember read) fun m => P m.2 := by
  intro cs m rest h
  obtain ⟨⟨name, afterName⟩, -, h⟩ := bind_eq_ok.1 h
  obtain ⟨afterColon, -, h⟩ := bind_eq_ok.1 h
  obtain ⟨⟨v, afterValue⟩, hv, h⟩ := bind_eq_ok.1 h
  cases h
  exact hread _ _ _ hv

theorem readMoreMembers_gives (fuel : Nat) :
    Gives (readMoreMembers read fuel) fun members => ∀ m ∈ members, P m.2 := by
  induction fuel with
  | zero =>
    intro cs members rest h
    cases h
  | succ fuel ih =>
    intro cs members rest h
    rw [readMoreMembers] at h
    split at h
    · cases h
      simp
    · split at h
      · obtain ⟨⟨m, afterMember⟩, hm, h⟩ := bind_eq_ok.1 h
        obtain ⟨⟨more, last⟩, hmore, h⟩ := bind_eq_ok.1 h
        cases h
        exact List.forall_mem_cons.2 ⟨readMember_gives hread _ _ _ hm, ih _ _ _ hmore⟩
      · cases h
      · cases h
      · cases h
    · cases h
    · cases h

theorem readMembers_gives : Gives (readMembers read) fun members => ∀ m ∈ members, P m.2 := by
  intro cs members rest h
  unfold readMembers at h
  split at h
  · cases h
  · cases h
    simp
  · obtain ⟨⟨m, afterMember⟩, hm, h⟩ := bind_eq_ok.1 h
    obtain ⟨⟨more, last⟩, hmore, h⟩ := bind_eq_ok.1 h
    cases h
    exact List.forall_mem_cons.2
      ⟨readMember_gives hread _ _ _ hm, readMoreMembers_gives hread _ _ _ _ hmore⟩
  · cases h

end

/-! Members -/

theorem names_putMember (name : String) (v : Json) (members : List (String × Json)) :
    (putMember name v members).map (·.1) =
      if name ∈ members.map (·.1) then members.map (·.1) else members.map (·.1) ++ [name] := by
  by_cases hmem : name ∈ members.map (·.1)
  · rw [if_pos hmem]
    induction members with
    | nil => simp at hmem
    | cons m members ih =>
      rw [putMember]
      split
      · rfl
      · rename_i hne
        have hrest : name ∈ members.map (·.1) := by simpa [Ne.symm hne] using hmem
        rw [List.map_cons, ih hrest, List.map_cons]
  · rw [if_neg hmem, putMember_new hmem, List.map_append, List.map_singleton]

theorem mem_putMember {name : String} {v : Json} {members : List (String × Json)} {m : String × Json}
    (h : m ∈ putMember name v members) : m.2 = v ∨ m ∈ members := by
  induction members with
  | nil =>
    obtain rfl := List.mem_singleton.1 h
    exact .inl rfl
  | cons n members ih =>
    rw [putMember] at h
    split at h
    · rcases List.mem_cons.1 h with rfl | h
      · exact .inl rfl
      · exact .inr (List.mem_cons_of_mem n h)
    · rcases List.mem_cons.1 h with rfl | h
      · exact .inr List.mem_cons_self
      · exact (ih h).imp_right (List.mem_cons_of_mem n)

theorem foldl_putMember_fits {P : Json → Prop} {members : List (String × Json)} (h : ∀ m ∈ members, P m.2)
    (start : List (String × Json)) (hnames : (start.map (·.1)).Nodup) (hstart : ∀ m ∈ start, P m.2) :
    ((members.foldl (fun ms m => putMember m.1 m.2 ms) start).map (·.1)).Nodup ∧
      ∀ m ∈ members.foldl (fun ms m => putMember m.1 m.2 ms) start, P m.2 := by
  induction members generalizing start with
  | nil => exact ⟨hnames, hstart⟩
  | cons x members ih =>
    obtain ⟨hx, hmore⟩ := List.forall_mem_cons.1 h
    rw [List.foldl_cons]
    apply ih hmore
    · rw [names_putMember]
      split
      · exact hnames
      · rename_i hnew
        exact List.nodup_append.2 ⟨hnames, by simp, by rintro a ha b hb rfl; simp_all⟩
    · intro m hm
      rcases mem_putMember hm with heq | hm
      · rw [heq]
        exact hx
      · exact hstart m hm

theorem readScalar_fits (levels : Nat) : Gives readScalar (Fits levels) := by
  intro cs v rest h
  unfold readScalar at h
  split at h
  · cases h
  · obtain ⟨after, -, h⟩ := bind_eq_ok.1 h
    cases h
    exact .null levels
  · obtain ⟨after, -, h⟩ := bind_eq_ok.1 h
    cases h
    exact .bool levels true
  · obtain ⟨after, -, h⟩ := bind_eq_ok.1 h
    cases h
    exact .bool levels false
  · obtain ⟨⟨n, after⟩, hn, h⟩ := bind_eq_ok.1 h
    cases h
    exact .number levels (readNumber_fits true _ _ _ hn)
  · obtain ⟨⟨s, after⟩, -, h⟩ := bind_eq_ok.1 h
    cases h
    exact .string levels s
  · split at h
    · obtain ⟨⟨n, after⟩, hn, h⟩ := bind_eq_ok.1 h
      cases h
      exact .number levels (readNumber_fits false _ _ _ hn)
    · cases h

/-- Whatever the text: by induction on the levels that may be opened. -/
theorem readValue_fits (levels : Nat) : Gives (readValue levels) (Fits levels) := by
  induction levels with
  | zero =>
    intro cs v rest h
    unfold readValue at h
    split at h
    · cases h
    · cases h
    · exact readScalar_fits 0 _ _ _ h
  | succ levels ih =>
    intro cs v rest h
    unfold readValue at h
    split at h
    · obtain ⟨⟨items, after⟩, hitems, h⟩ := bind_eq_ok.1 h
      cases h
      exact .array (readItems_gives ih _ _ _ hitems)
    · obtain ⟨⟨members, after⟩, hmembers, h⟩ := bind_eq_ok.1 h
      cases h
      have hfits := foldl_putMember_fits (readMembers_gives ih _ _ _ hmembers) [] List.nodup_nil (by simp)
      exact .object hfits.1 hfits.2
    · exact readScalar_fits (levels + 1) _ _ _ h

theorem parse_fits {text : String} {v : Json} (h : parse text = .ok v) : v.Fits maxDepth := by
  unfold parse readDocument at h
  cases hwhole : readWhole (readValue maxDepth) text.toList with
  | error m =>
    rw [hwhole] at h
    cases h
  | ok w =>
    rw [hwhole] at h
    cases h
    obtain ⟨⟨u, rest⟩, hu, hend⟩ := bind_eq_ok.1 hwhole
    dsimp only at hend
    split at hend
    · cases hend
      exact readValue_fits maxDepth _ _ _ hu
    · cases hend

/-! ### What is read again -/

inductive Exact : Json → Prop
  | null : Exact .null
  | bool (b : Bool) : Exact (.bool b)
  | integer (n : Int) : Exact (.number (.integer n))
  | string (s : String) : Exact (.string s)
  | array {items : List Json} (h : ∀ v ∈ items, Exact v) : Exact (.array items)
  | object {members : List (String × Json)} (h : ∀ m ∈ members, Exact m.2) : Exact (.object members)

def Ended (rest : List Char) : Prop := ∀ c, rest.head? = some c → [',', ']', '\x7d'].contains c = true

theorem Ended.nil : Ended [] := fun _ h => nomatch h

theorem Ended.cons {c : Char} (h : [',', ']', '\x7d'].contains c = true) (rest : List Char) :
    Ended (c :: rest) := by
  rintro d ⟨⟩
  exact h

theorem Ended.cases {rest : List Char} (h : Ended rest) :
    rest = [] ∨ ∃ c more, rest = c :: more ∧ (c = ',' ∨ c = ']' ∨ c = '\x7d') := by
  cases rest with
  | nil => exact .inl rfl
  | cons c more => exact .inr ⟨c, more, rfl, by simpa using h c rfl⟩

/-- What does not go on with a number. -/
def EndsNumber (rest : List Char) : Prop :=
  ∀ c, rest.head? = some c → c.isDigit = false ∧ c ≠ '.' ∧ c ≠ 'e' ∧ c ≠ 'E'

theorem EndsNumber.cons {c : Char} (h : c.isDigit = false ∧ c ≠ '.' ∧ c ≠ 'e' ∧ c ≠ 'E') (rest : List Char) :
    EndsNumber (c :: rest) := by
  rintro d ⟨⟩
  exact h

theorem Ended.endsNumber {rest : List Char} (h : Ended rest) : EndsNumber rest := by
  rcases h.cases with rfl | ⟨c, more, rfl, rfl | rfl | rfl⟩
  · exact fun c h => nomatch h
  all_goals exact .cons (by decide) more

/-! Integers -/

theorem le_ofDigitChars (ds : List Char) (n : Nat) : n ≤ Nat.ofDigitChars 10 ds n := by
  induction ds generalizing n with
  | nil => exact Nat.le_refl n
  | cons c ds ih =>
    rw [Nat.ofDigitChars_cons]
    exact Nat.le_trans (by omega) (ih _)

theorem head?_toDigits {n : Nat} (h : n ≠ 0) : (Nat.toDigits 10 n).head? ≠ some '0' := by
  induction n using Nat.strongRecOn with
  | ind n ih =>
    by_cases hn : n < 10
    · have hdigit : ∀ d < 10, d ≠ 0 → [d.digitChar].head? ≠ some '0' := by decide
      rw [Nat.toDigits_of_lt_base hn]
      exact hdigit n hn h
    · rw [Nat.toDigits_of_base_le (by decide) (by omega), List.head?_append_of_ne_nil _ Nat.toDigits_ne_nil]
      exact ih (n / 10) (by omega) (by omega)

theorem takeDigits_append {ds rest : List Char} (hds : ∀ c ∈ ds, c.isDigit = true)
    (hrest : EndsNumber rest) {n : Nat} (h : Nat.ofDigitChars 10 ds n < 0x10000000000000000) :
    takeDigits n (ds ++ rest) = (Nat.ofDigitChars 10 ds n, ds.length, rest) := by
  induction ds generalizing n with
  | nil =>
    cases rest with
    | nil => rfl
    | cons c more =>
      have hc : ¬c.isDigit = true := by
        rw [(hrest c rfl).1]
        exact Bool.false_ne_true
      rw [List.nil_append, takeDigits]
      exact if_neg fun hnext => hc hnext.1
  | cons c ds ih =>
    obtain ⟨hc, hmore⟩ := List.forall_mem_cons.1 hds
    rw [Nat.ofDigitChars_cons, show '0'.toNat = 48 from rfl] at h ⊢
    -- the number only grows, so it is below the bound here if it is in the end
    have hgrows : 10 * n + (c.toNat - 48) ≤ Nat.ofDigitChars 10 ds (10 * n + (c.toNat - 48)) :=
      le_ofDigitChars ds _
    have hnext : 10 * n + (c.toNat - 48) < 0x10000000000000000 := Nat.lt_of_le_of_lt hgrows h
    rw [List.cons_append, takeDigits]
    dsimp only
    rw [if_pos ⟨hc, hnext⟩, ih hmore h]
    rfl

theorem EndsNumber.readNumberTail {rest : List Char} (h : EndsNumber rest) (negative : Bool) (n : Nat) :
    readNumberTail negative n 0 false rest = .ok (wholeNumber negative n, rest) := by
  unfold Json.readNumberTail
  split
  · exact absurd rfl (h '.' rfl).2.1
  · exact absurd rfl (h 'e' rfl).2.2.1
  · exact absurd rfl (h 'E' rfl).2.2.2
  · rfl

theorem EndsNumber.takeWhile_isDigit {rest : List Char} (h : EndsNumber rest) :
    rest.takeWhile Char.isDigit = [] := by
  cases rest with
  | nil => rfl
  | cons c more => exact List.takeWhile_cons_of_neg (by simp [(h c rfl).1])

theorem EndsNumber.head?_isDigit {rest : List Char} (h : EndsNumber rest) :
    rest.head?.any Char.isDigit = false := by
  cases rest with
  | nil => rfl
  | cons c more => exact (h c rfl).1

theorem readNumber_toDigits (negative : Bool) {n : Nat} (h : n < 0x10000000000000000) {rest : List Char}
    (hrest : EndsNumber rest) :
    readNumber negative (Nat.toDigits 10 n ++ rest) = .ok (wholeNumber negative n, rest) := by
  by_cases hzero : n = 0
  · subst hzero
    have hdigits : Nat.toDigits 10 0 = ['0'] := Nat.toDigits_of_lt_base (by decide)
    rw [hdigits, List.singleton_append, readNumber, hrest.head?_isDigit, if_neg Bool.false_ne_true]
    exact hrest.readNumberTail negative 0
  have hdigits : ∀ c ∈ Nat.toDigits 10 n, c.isDigit = true := fun c hc =>
    Nat.isDigit_of_mem_toDigits (by decide) (by decide) hc
  have htaken := takeDigits_append hdigits hrest (n := 0) (by rwa [Nat.ofDigitChars_ten_toDigits])
  rw [Nat.ofDigitChars_ten_toDigits] at htaken
  have hhead := head?_toDigits hzero
  cases hlist : Nat.toDigits 10 n with
  | nil => exact absurd hlist Nat.toDigits_ne_nil
  | cons c cs =>
    rw [hlist] at hhead hdigits htaken
    have hc : c ≠ '0' := fun heq => hhead (congrArg some heq)
    rw [List.cons_append] at htaken ⊢
    rw [readNumber.eq_3 negative c (cs ++ rest) hc, if_pos (hdigits c List.mem_cons_self), htaken]
    dsimp only
    rw [hrest.takeWhile_isDigit]
    exact hrest.readNumberTail negative n

theorem ne_of_isDigit {c d : Char} (hc : c.isDigit = true) (hd : d.isDigit = false) : c ≠ d := by
  rintro rfl
  rw [hc] at hd
  cases hd

theorem isBlankChar_of_isDigit {c : Char} (h : c.isDigit = true) : isBlankChar c = false := by
  simp [isBlankChar, ne_of_isDigit h (d := ' ') (by decide), ne_of_isDigit h (d := '\n') (by decide),
    ne_of_isDigit h (d := '\t') (by decide), ne_of_isDigit h (d := '\r') (by decide)]

theorem toDigits_start (n : Nat) : ∃ c cs, Nat.toDigits 10 n = c :: cs ∧ c.isDigit = true := by
  have hdigits : ∀ c ∈ Nat.toDigits 10 n, c.isDigit = true := fun c hc =>
    Nat.isDigit_of_mem_toDigits (by decide) (by decide) hc
  obtain ⟨c, cs, hlist⟩ := List.exists_cons_of_ne_nil (Nat.toDigits_ne_nil (b := 10) (n := n))
  exact ⟨c, cs, hlist, hdigits c (hlist ▸ List.mem_cons_self)⟩

theorem readScalar_digit {c : Char} (h : c.isDigit = true) (rest : List Char) :
    readScalar (c :: rest) = readNumber false (c :: rest) >>= fun p => pure (.number p.1, p.2) := by
  rw [readScalar.eq_7 c rest (ne_of_isDigit h (by decide)) (ne_of_isDigit h (by decide))
    (ne_of_isDigit h (by decide)) (ne_of_isDigit h (by decide)) (ne_of_isDigit h (by decide)), if_pos h]

theorem readScalar_integer {n : Int} (h : (Number.integer n).Fits) {rest : List Char}
    (hrest : EndsNumber rest) :
    readScalar (integerChars n ++ rest) = .ok (.number (.integer n), rest) := by
  obtain ⟨hlow, hhigh⟩ := h
  have hread := fun negative => readNumber_toDigits negative (n := n.natAbs) (by omega) hrest
  unfold integerChars
  split
  · -- below zero, and not below what 64 bits hold
    have hwhole : wholeNumber true n.natAbs = .integer n := by
      unfold wholeNumber
      rw [if_neg (by decide), if_neg (by omega)]
      exact congrArg Number.integer (by omega)
    show (readNumber true (Nat.toDigits 10 n.natAbs ++ rest) >>= fun p => pure (Json.number p.1, p.2)) = _
    rw [hread true, hwhole]
    rfl
  · have hwhole : wholeNumber false n.natAbs = .integer n := by
      show Number.integer n.natAbs = .integer n
      exact congrArg Number.integer (by omega)
    obtain ⟨c, cs, hlist, hc⟩ := toDigits_start n.natAbs
    rw [hlist, List.cons_append, readScalar_digit hc, ← List.cons_append, ← hlist, hread false, hwhole]
    rfl

theorem integerChars_start (n : Int) : ∃ c cs, integerChars n = c :: cs ∧ (c = '-' ∨ c.isDigit = true) := by
  unfold integerChars
  split
  · exact ⟨'-', _, rfl, .inl rfl⟩
  · obtain ⟨c, cs, hlist, hc⟩ := toDigits_start n.natAbs
    exact ⟨c, cs, hlist, .inr hc⟩

/-! Lists -/

def Starts (v : Json) : Prop := ∃ c cs, compactChars v = c :: cs ∧ isBlankChar c = false ∧ c ≠ ']'

theorem Exact.starts {v : Json} (h : Exact v) : Starts v := by
  cases h with
  | null => exact ⟨_, _, rfl, by decide, by decide⟩
  | bool b => cases b <;> exact ⟨_, _, rfl, by decide, by decide⟩
  | integer n =>
    obtain ⟨c, cs, hlist, hc⟩ := integerChars_start n
    refine ⟨c, cs, hlist, ?_⟩
    rcases hc with rfl | hc
    · decide
    · exact ⟨isBlankChar_of_isDigit hc, ne_of_isDigit hc (by decide)⟩
  | string s => exact ⟨'"', s.toList.flatMap escapeChar ++ ['"'], rfl, by decide, by decide⟩
  | array h => exact ⟨'[', _, rfl, by decide, by decide⟩
  | object h => exact ⟨'\x7b', _, rfl, by decide, by decide⟩

def afterItem : List Json → List Char
  | [] => [']']
  | v :: items => ',' :: itemChars (v :: items)

theorem itemChars_cons (v : Json) (items : List Json) :
    itemChars (v :: items) = compactChars v ++ afterItem items := by
  cases items with
  | nil => rw [itemChars, afterItem]
  | cons w items =>
    rw [itemChars, afterItem]
    exact fun h => nomatch h

theorem afterItem_cases (items : List Json) (rest : List Char) :
    ∃ c more, [',', ']', '\x7d'].contains c ∧ afterItem items ++ rest = c :: more := by
  cases items with
  | nil => exact ⟨']', rest, by decide, rfl⟩
  | cons v items => exact ⟨',', itemChars (v :: items) ++ rest, by decide, rfl⟩

theorem length_lt_afterItem (items : List Json) : items.length < (afterItem items).length := by
  induction items with
  | nil => decide
  | cons v items ih =>
    rw [afterItem, itemChars_cons]
    simp only [List.length_cons, List.length_append]
    omega

section

variable {read : Reader Json}

theorem readMoreItems_item {c : Char} (hblank : isBlankChar c = false) (hc : c ≠ ']') (fuel : Nat)
    (cs : List Char) :
    readMoreItems read (fuel + 1) (',' :: c :: cs) =
      read (c :: cs) >>= fun p => readMoreItems read fuel p.2 >>= fun q => pure (p.1 :: q.1, q.2) := by
  have hcomma := skipBlanks_cons (c := ',') (by decide)
  simp only [readMoreItems, hcomma, skipBlanks_cons hblank]
  split
  · rename_i h
    cases h
  · rename_i h
    exact absurd (List.cons.inj h).1 hc
  · rfl

theorem readItems_item {c : Char} (hblank : isBlankChar c = false) (hc : c ≠ ']') (cs : List Char) :
    readItems read (c :: cs) =
      read (c :: cs) >>= fun p =>
        readMoreItems read (p.2.length + 1) p.2 >>= fun q => pure (p.1 :: q.1, q.2) := by
  unfold readItems
  rw [skipBlanks_cons hblank]
  split
  · rename_i h
    cases h
  · rename_i h
    exact absurd (List.cons.inj h).1 hc
  · rfl

theorem ReadsBack.before_items {v : Json} (h : ReadsBack read id v) (items : List Json) (rest : List Char) :
    read (compactChars v ++ (afterItem items ++ rest)) = .ok (v, afterItem items ++ rest) := by
  obtain ⟨c, more, hc, hafter⟩ := afterItem_cases items rest
  rw [hafter]
  exact h c more hc

theorem readMoreItems_written {items : List Json} (h : ∀ v ∈ items, Starts v ∧ ReadsBack read id v)
    (rest : List Char) {fuel : Nat} (hfuel : items.length < fuel) :
    readMoreItems read fuel (afterItem items ++ rest) = .ok (items, rest) := by
  -- each item uses up one round
  induction items generalizing fuel with
  | nil =>
    obtain ⟨k, rfl⟩ : ∃ k, fuel = k + 1 := ⟨fuel - 1, by omega⟩
    rfl
  | cons v items ih =>
    obtain ⟨k, rfl⟩ : ∃ k, fuel = k + 1 := ⟨fuel - 1, by omega⟩
    obtain ⟨⟨⟨c, cs, hchars, hblank, hc⟩, hback⟩, hmore⟩ := List.forall_mem_cons.1 h
    have hitem := hback.before_items items rest
    have hrest := ih hmore (show items.length < k by simpa using hfuel)
    rw [afterItem, itemChars_cons, List.cons_append, List.append_assoc]
    rw [hchars, List.cons_append] at hitem ⊢
    rw [readMoreItems_item hblank hc, hitem]
    show (readMoreItems read k (afterItem items ++ rest) >>= fun q => pure (v :: q.1, q.2)) = _
    rw [hrest]
    rfl

theorem readItems_written {items : List Json} (h : ∀ v ∈ items, Starts v ∧ ReadsBack read id v)
    (rest : List Char) : readItems read (itemChars items ++ rest) = .ok (items, rest) := by
  cases items with
  | nil => rfl
  | cons v items =>
    obtain ⟨⟨⟨c, cs, hchars, hblank, hc⟩, hback⟩, hmore⟩ := List.forall_mem_cons.1 h
    have hitem := hback.before_items items rest
    have hfuel : items.length < (afterItem items ++ rest).length + 1 := by
      have hlength := length_lt_afterItem items
      rw [List.length_append]
      omega
    have hrest := readMoreItems_written hmore rest hfuel
    rw [itemChars_cons, List.append_assoc]
    rw [hchars, List.cons_append] at hitem ⊢
    rw [readItems_item hblank hc, hitem]
    show (readMoreItems read _ (afterItem items ++ rest) >>= fun q => pure (v :: q.1, q.2)) = _
    rw [hrest]
    rfl

end

/-! Values -/

theorem readValue_integer (levels : Nat) {n : Int} (h : (Number.integer n).Fits) {rest : List Char}
    (hrest : EndsNumber rest) :
    readValue levels (integerChars n ++ rest) = .ok (.number (.integer n), rest) := by
  have hscalar := readScalar_integer h hrest
  obtain ⟨c, cs, hlist, hc⟩ := integerChars_start n
  obtain ⟨d, ds, hchars, hblank, -⟩ := (Exact.integer n).starts
  obtain ⟨rfl, rfl⟩ := List.cons.inj (hlist.symm.trans hchars)
  rw [hlist, List.cons_append] at hscalar ⊢
  -- neither a sign nor a digit opens a list or an object
  have hopens : c ≠ '[' ∧ c ≠ '\x7b' := by
    constructor
    all_goals
      rintro rfl
      revert hc
      decide
  unfold readValue
  split
  all_goals
    rw [skipBlanks_cons hblank]
    split
    · rename_i h
      exact absurd (List.cons.inj h).1 hopens.1
    · rename_i h
      exact absurd (List.cons.inj h).1 hopens.2
    · exact hscalar

/-- What was read and holds no float is read back, by induction on how it fits. -/
theorem readValue_compact {levels : Nat} {v : Json} (hfits : v.Fits levels) (hexact : v.Exact)
    {rest : List Char} (hrest : Ended rest) :
    readValue levels (compactChars v ++ rest) = .ok (v, rest) := by
  induction hfits generalizing rest with
  | null levels => cases levels <;> rfl
  | bool levels b => cases levels <;> cases b <;> rfl
  | number levels h =>
    cases hexact with
    | integer n => exact readValue_integer levels h hrest.endsNumber
  | string levels s => exact readValue_quoted levels s rest
  | @array levels items h ih =>
    cases hexact with
    | array hitems =>
      have hwritten : ∀ v ∈ items, Starts v ∧ ReadsBack (readValue levels) id v := fun v hv =>
        ⟨(hitems v hv).starts, fun c more hc => ih v hv (hitems v hv) (.cons hc more)⟩
      show (readItems (readValue levels) (itemChars items ++ rest) >>= fun p =>
        pure (Json.array p.1, p.2)) = _
      rw [readItems_written hwritten]
      rfl
  | @object levels members hnames h ih =>
    cases hexact with
    | object hmembers =>
      exact readValue_object hnames
        (fun m hm c more hc => ih m hm (hmembers m hm) (.cons hc more)) rest

theorem parse_compact {v : Json} (hfits : v.Fits maxDepth) (hexact : v.Exact) :
    parse v.compact = .ok v := by
  have hread := readValue_compact hfits hexact .nil
  rw [List.append_nil] at hread
  exact readDocument_of_read hread (by simp)

end Relay.Json
