import Relay.Proofs.Text
import Relay.Json.Record

/-!
How readers go about a text. They go forward: what a reader leaves is no longer than what it was given,
so a loop that has a round for each character never runs out of rounds. And a record is read by what its
fields look at: drafts that no field tells apart fare alike on the same text.
-/

namespace Relay.Json

def Forward {α : Type} (read : Reader α) : Prop :=
  ∀ cs v rest, read cs = .ok (v, rest) → rest.length ≤ cs.length

theorem map_eq_ok {ε α β : Type} {x : Except ε α} {f : α → β} {b : β} :
    x.map f = .ok b ↔ ∃ a, x = .ok a ∧ f a = b := by
  cases x with
  | error e => simp [Except.map]
  | ok a => simp [Except.map]

/-! ### Blanks, words and texts -/

theorem length_skipBlanks (cs : List Char) : (skipBlanks cs).length ≤ cs.length :=
  (List.dropWhile_suffix _).length_le

theorem length_of_skipBlanks {cs rest : List Char} {c : Char} (h : skipBlanks cs = c :: rest) :
    rest.length < cs.length := by
  have hlength := length_skipBlanks cs
  rw [h, List.length_cons] at hlength
  omega

theorem readWord_length {ws cs rest : List Char} (h : readWord ws cs = .ok rest) :
    rest.length ≤ cs.length := by
  induction ws generalizing cs with
  | nil =>
    cases h
    exact Nat.le_refl _
  | cons w ws ih =>
    cases cs with
    | nil => cases h
    | cons c cs =>
      rw [readWord] at h
      split at h
      · exact Nat.le_succ_of_le (ih h)
      · cases h

theorem readText_length {cs s rest : List Char} (h : readText cs = .ok (s, rest)) :
    rest.length ≤ cs.length := by
  fun_induction readText cs generalizing s with
  | case1 => cases h
  | case2 tail =>
    cases h
    simp
  | case3 => cases h
  | case4 => cases h
  | case5 more c tail hunicode ih =>
    obtain ⟨⟨s', rest'⟩, htail, heq⟩ := map_eq_ok.1 h
    obtain rfl : rest' = rest := congrArg Prod.snd heq
    have hmore := readUnicode_length hunicode
    have hrest := ih htail
    simp only [List.length_cons]
    omega
  | case6 e more hu c hescape ih =>
    obtain ⟨⟨s', rest'⟩, htail, heq⟩ := map_eq_ok.1 h
    obtain rfl : rest' = rest := congrArg Prod.snd heq
    have hrest := ih htail
    simp only [List.length_cons]
    omega
  | case7 => cases h
  | case8 => cases h
  | case9 c more _ _ _ _ hcontrol ih =>
    obtain ⟨⟨s', rest'⟩, htail, heq⟩ := map_eq_ok.1 h
    obtain rfl : rest' = rest := congrArg Prod.snd heq
    exact Nat.le_succ_of_le (ih htail)

theorem readString_forward : Forward readString := by
  intro cs v rest h
  obtain ⟨⟨s, rest'⟩, htext, heq⟩ := bind_eq_ok.1 h
  cases heq
  exact readText_length htext

theorem readColon_length {cs rest : List Char} (h : readColon cs = .ok rest) :
    rest.length < cs.length := by
  unfold readColon at h
  split at h
  · rename_i more hskip
    cases h
    exact length_of_skipBlanks hskip
  · cases h
  · cases h

/-! ### Fields -/

theorem mismatch_ne_ok {α : Type} {expected : String} {cs : List Char} {x : α × List Char} :
    mismatch expected cs ≠ .ok x := by
  intro h
  unfold mismatch at h
  split at h
  · cases h
  · cases h
  · obtain ⟨p, -, hfail⟩ := bind_eq_ok.1 h
    cases hfail

theorem valueStart_ok {cs rest : List Char} (h : valueStart cs = .ok rest) : rest.length ≤ cs.length := by
  unfold valueStart at h
  split at h
  · cases h
  · cases h
    exact length_skipBlanks cs

theorem textField_forward : Forward textField := by
  intro cs v rest h
  obtain ⟨start, hstart, h⟩ := bind_eq_ok.1 h
  have hlength := valueStart_ok hstart
  split at h
  · rename_i more
    have hrest := readString_forward _ _ _ h
    rw [List.length_cons] at hlength
    omega
  · exact absurd h mismatch_ne_ok

theorem flagField_forward : Forward flagField := by
  intro cs v rest h
  obtain ⟨start, hstart, h⟩ := bind_eq_ok.1 h
  have hlength := valueStart_ok hstart
  split at h
  · obtain ⟨after, hword, heq⟩ := bind_eq_ok.1 h
    cases heq
    have hrest := readWord_length hword
    rw [List.length_cons] at hlength
    omega
  · obtain ⟨after, hword, heq⟩ := bind_eq_ok.1 h
    cases heq
    have hrest := readWord_length hword
    rw [List.length_cons] at hlength
    omega
  · exact absurd h mismatch_ne_ok

section

variable {α : Type} {value : Reader α}

theorem readMember_forward (hvalue : Forward value) : Forward (readMember value) := by
  intro cs v rest h
  obtain ⟨⟨name, afterName⟩, hname, h⟩ := bind_eq_ok.1 h
  obtain ⟨afterColon, hcolon, h⟩ := bind_eq_ok.1 h
  obtain ⟨⟨w, afterValue⟩, hw, heq⟩ := bind_eq_ok.1 h
  cases heq
  have h₁ := readString_forward _ _ _ hname
  have h₂ := readColon_length hcolon
  have h₃ := hvalue _ _ _ hw
  omega

theorem readMoreMembers_forward (hvalue : Forward value) (fuel : Nat) :
    Forward (readMoreMembers value fuel) := by
  induction fuel with
  | zero =>
    intro cs v rest h
    cases h
  | succ fuel ih =>
    intro cs v rest h
    rw [readMoreMembers] at h
    split at h
    · rename_i hskip
      cases h
      exact Nat.le_of_lt (length_of_skipBlanks hskip)
    · rename_i hskip
      have hcomma := length_of_skipBlanks hskip
      split at h
      · rename_i hquote
        have hafter := length_of_skipBlanks hquote
        obtain ⟨⟨m, afterMember⟩, hm, h⟩ := bind_eq_ok.1 h
        obtain ⟨⟨ms, last⟩, hms, heq⟩ := bind_eq_ok.1 h
        cases heq
        have h₁ := readMember_forward hvalue _ _ _ hm
        have h₂ := ih _ _ _ hms
        omega
      · cases h
      · cases h
      · cases h
    · cases h
    · cases h

theorem readMembers_forward (hvalue : Forward value) : Forward (readMembers value) := by
  intro cs v rest h
  unfold readMembers at h
  split at h
  · cases h
  · rename_i hskip
    cases h
    exact Nat.le_of_lt (length_of_skipBlanks hskip)
  · rename_i hskip
    have hafter := length_of_skipBlanks hskip
    obtain ⟨⟨m, afterMember⟩, hm, h⟩ := bind_eq_ok.1 h
    obtain ⟨⟨ms, last⟩, hms, heq⟩ := bind_eq_ok.1 h
    cases heq
    have h₁ := readMember_forward hvalue _ _ _ hm
    have h₂ := readMoreMembers_forward hvalue _ _ _ _ hms
    omega
  · cases h

theorem mapField_forward : Forward mapField := by
  intro cs v rest h
  obtain ⟨start, hstart, h⟩ := bind_eq_ok.1 h
  have hlength := valueStart_ok hstart
  split at h
  · obtain ⟨⟨members, after⟩, hmembers, heq⟩ := bind_eq_ok.1 h
    cases heq
    have hrest := readMembers_forward textField_forward _ _ _ hmembers
    rw [List.length_cons] at hlength
    omega
  · exact absurd h mismatch_ne_ok

theorem optional_forward (hvalue : Forward value) : Forward (optional value) := by
  intro cs v rest h
  unfold optional at h
  have hlength := length_skipBlanks cs
  split at h
  · rename_i more hskip
    obtain ⟨after, hword, heq⟩ := bind_eq_ok.1 h
    cases heq
    have hrest := readWord_length hword
    rw [hskip, List.length_cons] at hlength
    omega
  · obtain ⟨⟨w, after⟩, hw, heq⟩ := bind_eq_ok.1 h
    cases heq
    exact Nat.le_trans (hvalue _ _ _ hw) hlength

end

/-! ### What is passed over -/

theorem skipText_length {cs rest : List Char} (h : skipText cs = .ok rest) : rest.length ≤ cs.length := by
  fun_induction skipText cs with
  | case1 => cases h
  | case2 =>
    cases h
    simp
  | case3 => cases h
  | case4 a b c d more hhex ih =>
    have hrest := ih h
    simp only [List.length_cons]
    omega
  | case5 => cases h
  | case6 => cases h
  | case7 => cases h
  | case8 e more hu hu' hescape ih =>
    have hrest := ih h
    simp only [List.length_cons]
    omega
  | case9 => cases h
  | case10 => cases h
  | case11 c more _ _ _ _ _ _ ih => exact Nat.le_succ_of_le (ih h)

theorem length_dropWhile_le (p : Char → Bool) (cs : List Char) : (cs.dropWhile p).length ≤ cs.length :=
  (List.dropWhile_suffix _).length_le

theorem skipExponent_length {cs rest : List Char} (h : skipExponent cs = .ok rest) :
    rest.length ≤ cs.length := by
  have hdigits : ∀ ds : List Char, (if ds.head?.any Char.isDigit then .ok (ds.dropWhile Char.isDigit)
      else failNext .invalidNumber ds) = Except.ok rest → rest.length ≤ ds.length := by
    intro ds hds
    split at hds
    · cases hds
      exact length_dropWhile_le _ _
    · cases hds
  unfold skipExponent at h
  dsimp only at h
  split at h
  · exact Nat.le_succ_of_le (hdigits _ h)
  · exact Nat.le_succ_of_le (hdigits _ h)
  · exact hdigits _ h

theorem skipOptionalExponent_length {cs rest : List Char} (h : skipOptionalExponent cs = .ok rest) :
    rest.length ≤ cs.length := by
  unfold skipOptionalExponent at h
  split at h
  · exact Nat.le_succ_of_le (skipExponent_length h)
  · exact Nat.le_succ_of_le (skipExponent_length h)
  · cases h
    exact Nat.le_refl _

theorem length_of_bind {x : Except Misread (List Char)} {next : List Char → Except Misread (List Char)}
    {rest : List Char} {n : Nat} (h : (x >>= next) = .ok rest)
    (hx : ∀ after, x = .ok after → after.length ≤ n)
    (hnext : ∀ after, next after = .ok rest → rest.length ≤ after.length) : rest.length ≤ n := by
  obtain ⟨after, hafter, hrest⟩ := bind_eq_ok.1 h
  exact Nat.le_trans (hnext after hrest) (hx after hafter)

theorem skipFraction_length {cs rest : List Char} (h : (if cs.head?.any Char.isDigit then
      skipOptionalExponent (cs.dropWhile Char.isDigit) else failNext .invalidNumber cs) = .ok rest) :
    rest.length ≤ cs.length := by
  split at h
  · exact Nat.le_trans (skipOptionalExponent_length h) (length_dropWhile_le _ _)
  · cases h

theorem skipNumber_length {cs rest : List Char} (h : skipNumber cs = .ok rest) :
    rest.length ≤ cs.length := by
  unfold skipNumber at h
  dsimp only [bind, Except.bind, pure, Except.pure] at h
  split at h
  · -- a zero stands alone in front of the fraction
    split at h
    · cases h
    · split at h
      · exact Nat.le_succ_of_le (Nat.le_succ_of_le (skipFraction_length h))
      · exact Nat.le_succ_of_le (skipOptionalExponent_length h)
  · rename_i c digits _
    have hdrop := length_dropWhile_le Char.isDigit digits
    split at h
    · split at h
      · rename_i fraction hwhole
        rw [hwhole, List.length_cons] at hdrop
        exact Nat.le_trans (skipFraction_length h) (Nat.le_succ_of_le (Nat.le_of_succ_le hdrop))
      · exact Nat.le_trans (skipOptionalExponent_length h) (Nat.le_succ_of_le hdrop)
    · cases h
  · cases h

theorem skipIn_length {fuel : Nat} {state : SkipState} {frames : List Frame} {cs rest : List Char}
    (h : skipIn fuel state frames cs = .ok rest) : rest.length ≤ cs.length := by
  -- the text behind the head of a value, a closing character or a comma is shorter
  fun_induction skipIn fuel state frames cs
  case case1 | case4 | case11 | case13 | case16 | case19 | case20 => cases h
  case case2 hskip ih | case3 hskip ih =>
    exact Nat.le_trans (ih h) (Nat.le_of_lt (length_of_skipBlanks hskip))
  case case5 hskip ih | case6 hskip ih | case7 hskip ih =>
    have hword := length_of_bind h (fun _ => readWord_length) ih
    exact Nat.le_trans hword (Nat.le_of_lt (length_of_skipBlanks hskip))
  case case8 hskip ih =>
    have hnumber := length_of_bind h (fun _ => skipNumber_length) ih
    exact Nat.le_trans hnumber (Nat.le_of_lt (length_of_skipBlanks hskip))
  case case9 hskip ih =>
    have htext := length_of_bind h (fun _ => skipText_length) ih
    exact Nat.le_trans htext (Nat.le_of_lt (length_of_skipBlanks hskip))
  case case10 hskip _ ih =>
    have hnumber := length_of_bind h (fun _ => skipNumber_length) ih
    exact Nat.le_trans hnumber (hskip ▸ length_skipBlanks _)
  case case12 =>
    cases h
    exact Nat.le_refl _
  case case14 hskip _ ih =>
    exact Nat.le_trans (ih h) (Nat.le_of_lt (length_of_skipBlanks hskip))
  case case15 hskip _ _ ih =>
    exact Nat.le_trans (ih h) (Nat.le_of_lt (length_of_skipBlanks hskip))
  case case17 hskip _ _ _ ih => exact Nat.le_trans (ih h) (hskip ▸ length_skipBlanks _)
  case case18 hskip ih =>
    obtain ⟨after, htext, h⟩ := bind_eq_ok.1 h
    have hcolon := length_of_bind h (fun _ hcolon => Nat.le_of_lt (readColon_length hcolon)) ih
    have hrest := Nat.le_trans hcolon (skipText_length htext)
    exact Nat.le_trans hrest (Nat.le_of_lt (length_of_skipBlanks hskip))

theorem skipValue_forward : Forward skipValue := by
  intro cs v rest h
  obtain ⟨after, hskip, heq⟩ := bind_eq_ok.1 h
  cases heq
  exact skipIn_length hskip

/-! ### Records -/

namespace Schema

variable {δ : Type} {s : Schema δ}

theorem readField_forward (hfields : ∀ f ∈ s.fields, ∀ draft, Forward (f.read draft)) {draft next : δ}
    {cs rest : List Char} (h : s.readField draft cs = .ok (next, rest)) : rest.length ≤ cs.length := by
  obtain ⟨⟨name, afterName⟩, hname, h⟩ := bind_eq_ok.1 h
  have h₁ := readString_forward _ _ _ hname
  dsimp only at h
  split at h
  · obtain ⟨afterColon, hcolon, h⟩ := bind_eq_ok.1 h
    obtain ⟨⟨u, after⟩, hskip, heq⟩ := bind_eq_ok.1 h
    obtain rfl : after = rest := (Prod.mk.inj (Except.ok.inj heq)).2
    have h₂ := readColon_length hcolon
    have h₃ := skipValue_forward _ _ _ hskip
    omega
  · rename_i f hfind
    split at h
    · cases h
    · obtain ⟨afterColon, hcolon, h⟩ := bind_eq_ok.1 h
      have h₂ := readColon_length hcolon
      have h₃ := hfields f (List.mem_of_find?_eq_some hfind) draft _ _ _ h
      omega

theorem readMoreFields_fuel (hfields : ∀ f ∈ s.fields, ∀ draft, Forward (f.read draft)) {draft : δ}
    {cs : List Char} {fuel fuel' : Nat} (h : cs.length < fuel) (h' : cs.length < fuel') :
    s.readMoreFields fuel draft cs = s.readMoreFields fuel' draft cs := by
  induction fuel generalizing fuel' draft cs with
  | zero => omega
  | succ fuel ih =>
    cases fuel' with
    | zero => omega
    | succ fuel' =>
      rw [readMoreFields, readMoreFields]
      split
      · rfl
      · rename_i rest hskip
        split
        · rename_i after hquote
          -- a comma and a quote are gone, so one round less is enough
          have h₁ := length_of_skipBlanks hskip
          have h₂ := length_of_skipBlanks hquote
          cases hread : s.readField draft after with
          | error e => rfl
          | ok p =>
            have h₃ := readField_forward hfields hread
            exact ih (by omega) (by omega)
        · rfl
        · rfl
        · rfl
      · rfl
      · rfl

/-! ### Drafts that no field tells apart -/

/-- Two readings of one text: the same failure, or related drafts and the same text left. -/
def Alike (R : δ → δ → Prop) : Except Misread (δ × List Char) → Except Misread (δ × List Char) → Prop
  | .error e, .error e' => e = e'
  | .ok (d, rest), .ok (d', rest') => R d d' ∧ rest = rest'
  | _, _ => False

theorem Alike.bind {R : δ → δ → Prop} {x x' : Except Misread (δ × List Char)}
    {next next' : δ × List Char → Except Misread (δ × List Char)} (h : Alike R x x')
    (hnext : ∀ d d' rest, R d d' → Alike R (next (d, rest)) (next' (d', rest))) :
    Alike R (x >>= next) (x' >>= next') := by
  cases x with
  | error e =>
    cases x' with
    | error e' => exact h
    | ok p' => exact h.elim
  | ok p =>
    cases x' with
    | error e' => exact h.elim
    | ok p' =>
      obtain ⟨d, rest⟩ := p
      obtain ⟨d', rest'⟩ := p'
      obtain ⟨hdraft, rfl⟩ := h
      exact hnext d d' rest hdraft

/-- A relation between drafts that the fields of a record keep, and do not see. -/
structure Keeps (s : Schema δ) (R : δ → δ → Prop) : Prop where
  isSet : ∀ f ∈ s.fields, ∀ d d', R d d' → f.isSet d = f.isSet d'
  read : ∀ f ∈ s.fields, ∀ d d', R d d' → ∀ cs, Alike R (f.read d cs) (f.read d' cs)

section

variable {R : δ → δ → Prop} (hkeeps : s.Keeps R) {d d' : δ} (hd : R d d')

include hkeeps hd

theorem finish_alike (rest : List Char) : Alike R (s.finish d rest) (s.finish d' rest) := by
  have hfind : s.fields.find? (fun f => f.required && !f.isSet d) =
      s.fields.find? fun f => f.required && !f.isSet d' := by
    rw [← List.head?_filter, ← List.head?_filter]
    refine congrArg List.head? (List.filter_congr ?_)
    intro f hf
    rw [hkeeps.isSet f hf d d' hd]
  unfold finish
  rw [hfind]
  split
  · rfl
  · exact ⟨hd, rfl⟩

theorem readField_alike (cs : List Char) : Alike R (s.readField d cs) (s.readField d' cs) := by
  unfold readField
  cases readString cs with
  | error e => rfl
  | ok p =>
    dsimp only [bind, Except.bind]
    cases hfind : s.fields.find? (·.name == p.1) with
    | none =>
      dsimp only
      cases readColon p.2 with
      | error e => rfl
      | ok rest =>
        dsimp only
        cases skipValue rest with
        | error e => rfl
        | ok q => exact ⟨hd, rfl⟩
    | some f =>
      have hf : f ∈ s.fields := List.mem_of_find?_eq_some hfind
      dsimp only
      rw [hkeeps.isSet f hf d d' hd]
      split
      · rfl
      · cases readColon p.2 with
        | error e => rfl
        | ok rest => exact hkeeps.read f hf d d' hd rest

omit hd in
theorem readMoreFields_alike (fuel : Nat) {d d' : δ} (hd : R d d') (cs : List Char) :
    Alike R (s.readMoreFields fuel d cs) (s.readMoreFields fuel d' cs) := by
  induction fuel generalizing d d' cs with
  | zero => rfl
  | succ fuel ih =>
    rw [readMoreFields, readMoreFields]
    split
    · exact finish_alike hkeeps hd _
    · split
      · exact (readField_alike hkeeps hd _).bind fun d d' rest hd => ih hd rest
      · rfl
      · rfl
      · rfl
    · rfl
    · rfl

omit hd in
theorem readList_alike (index : Nat) {fields : List (Field δ)} (hfields : ∀ f ∈ fields, f ∈ s.fields)
    {d d' : δ} (hd : R d d') (cs : List Char) :
    Alike R (s.readList index fields d cs) (s.readList index fields d' cs) := by
  induction fields generalizing index d d' cs with
  | nil =>
    rw [readList, readList]
    cases readListEnd cs with
    | error e => rfl
    | ok rest => exact ⟨hd, rfl⟩
  | cons f fields ih =>
    obtain ⟨hf, hmore⟩ := List.forall_mem_cons.1 hfields
    rw [readList, readList]
    -- whether an item comes is decided before the draft is looked at
    split
    · rfl
    · split
      · rfl
      · exact ⟨hd, rfl⟩
    · have hnext : ∀ next, Alike R (f.read d next >>= fun p => s.readList (index + 1) fields p.1 p.2)
          (f.read d' next >>= fun p => s.readList (index + 1) fields p.1 p.2) := by
        intro next
        exact (hkeeps.read f hf d d' hd next).bind fun d d' rest hd => ih (index + 1) hmore hd rest
      dsimp only
      split
      · exact hnext _
      · split
        · split
          · rfl
          · rfl
          · exact hnext _
        · rfl

end

/-! ### Where a value stands -/

/-- How reading goes on behind the value of a field: with further members, or with further items. -/
inductive Onward (s : Schema δ) : (δ → List Char → Except Misread (δ × List Char)) → Prop
  | members : Onward s fun d cs => s.readMoreFields (cs.length + 1) d cs
  | items (index : Nat) {fields : List (Field δ)} (hfields : ∀ f ∈ fields, f ∈ s.fields) :
    Onward s (s.readList index fields)

/-- Behind `front` the value of a field is awaited: whatever comes is read by that field. -/
def Awaits (s : Schema δ) (start : δ) (front : List Char) (f : Field δ) (draft : δ) : Prop :=
  ∃ onward, s.Onward onward ∧
    ∀ text, s.read start (front ++ text) = f.read draft text >>= fun p => onward p.1 p.2

theorem Awaits.alike {R : δ → δ → Prop} (hkeeps : s.Keeps R) {start draft d d' : δ} {front : List Char}
    {f : Field δ} (h : s.Awaits start front f draft) {value value' back : List Char}
    (hread : f.read draft (value ++ back) = .ok (d, back))
    (hread' : f.read draft (value' ++ back) = .ok (d', back)) (hd : R d d') :
    Alike R (s.read start (front ++ (value ++ back))) (s.read start (front ++ (value' ++ back))) := by
  obtain ⟨onward, honward, htext⟩ := h
  rw [htext, htext, hread, hread']
  -- what follows the value is the same text, read into drafts that no field tells apart
  show Alike R (onward d back) (onward d' back)
  cases honward with
  | members => exact readMoreFields_alike hkeeps _ hd back
  | items index hfields => exact readList_alike hkeeps index hfields hd back

theorem Awaits.error {start draft : δ} {front : List Char} {f : Field δ} (h : s.Awaits start front f draft)
    {text : List Char} {m : Misread} (hread : f.read draft text = .error m) :
    s.read start (front ++ text) = .error m := by
  obtain ⟨onward, -, htext⟩ := h
  rw [htext, hread]
  rfl

end Schema

/-! ### Places -/

/-- Texts that take the same space: as many bytes, and line ends in the same places. -/
def SameSpace (cs cs' : List Char) : Prop :=
  (cs.flatMap String.utf8EncodeChar).map (· == 10) = (cs'.flatMap String.utf8EncodeChar).map (· == 10)

instance (cs cs' : List Char) : Decidable (SameSpace cs cs') := inferInstanceAs (Decidable (_ = _))

theorem SameSpace.inside {value value' : List Char} (h : SameSpace value value') (front back : List Char) :
    SameSpace (front ++ (value ++ back)) (front ++ (value' ++ back)) := by
  unfold SameSpace at *
  simp only [List.flatMap_append, List.map_append, h]

theorem Position.after_congr {bs bs' : Bytes} (h : bs.map (· == 10) = bs'.map (· == 10)) :
    Position.after bs = Position.after bs' := by
  -- lines and columns are counted by the line ends alone
  have hflags : ∀ l : Bytes, Position.after l =
      ⟨1 + (l.map (· == 10)).count true, ((l.map (· == 10)).reverse.takeWhile (!·)).length⟩ := by
    intro l
    have hcount : (l.map (· == 10)).count true = l.count 10 := by
      rw [List.count_eq_countP, List.countP_map, List.count_eq_countP]
      refine List.countP_congr ?_
      intro b _
      simp
    have hcolumn : ((l.map (· == 10)).reverse.takeWhile (!·)).length =
        (l.reverse.takeWhile (· ≠ 10)).length := by
      have hflag : ((!·) ∘ fun b : UInt8 => b == 10) = fun b => decide (b ≠ 10) := by
        funext b
        by_cases hb : b = 10 <;> simp [hb]
      rw [← List.map_reverse, List.takeWhile_map, List.length_map, hflag]
    unfold Position.after
    rw [hcount, hcolumn]
  rw [hflags, hflags, h]

theorem SameSpace.place {text text' : List Char} (h : SameSpace text text') {m m' : Misread}
    (hfault : m.fault = m'.fault) (hextra : m.extra = m'.extra)
    (hleft : (m.rest.flatMap String.utf8EncodeChar).length = (m'.rest.flatMap String.utf8EncodeChar).length) :
    m.place text = m'.place text' := by
  have hlength : (text.flatMap String.utf8EncodeChar).length = (text'.flatMap String.utf8EncodeChar).length := by
    simpa using congrArg List.length h
  -- as much has been read of both texts, and it ends in the same line and column
  unfold Misread.place
  dsimp only
  rw [hlength, hfault, hextra, hleft]
  refine congrArg _ (Position.after_congr ?_)
  rw [List.map_take, List.map_take, h]

end Relay.Json
