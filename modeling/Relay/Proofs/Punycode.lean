import Mathlib.Data.List.Basic
import Mathlib.Tactic.Ring
import Relay.Url.Punycode

/-!
Punycode loses nothing: reading an encoded label gives the label back. The writer passes over the
label once for each code point and counts what it passes; the reader turns each count into a place.
Both are at the same point of the same enumeration of pairs of a code point and a place, which is
what `Agrees` says, and every character written moves the reader along.
-/

namespace Relay.Url.Punycode

/-! ### Distances -/

theorem threshold_le (k bias : Nat) : threshold k bias ≤ 26 := by
  unfold threshold
  repeat' split
  all_goals omega

theorem digitValue?_digitChar : ∀ d < 36, digitValue? (digitChar d) = some d := by
  decide

def IsSymbol (c : Char) : Prop := ∃ d < 36, c = digitChar d

theorem digits_isSymbol (bias k q : Nat) : ∀ c ∈ digits bias k q, IsSymbol c := by
  fun_induction digits bias k q with
  | case1 k q t hlt =>
    have ht := threshold_le k bias
    intro c hc
    rw [List.mem_singleton] at hc
    exact ⟨q, by omega, hc⟩
  | case2 k q t hge ih =>
    have ht := threshold_le k bias
    intro c hc
    rcases List.mem_cons.1 hc with rfl | hc
    · have hmod := Nat.mod_lt (q - t) (show 36 - t > 0 by omega)
      exact ⟨_, by omega, rfl⟩
    · exact ih c hc

theorem digits_ne_nil (bias k q : Nat) : digits bias k q ≠ [] := by
  rw [digits]
  split <;> simp

theorem distance?_digits (bias k q w i : Nat) (rest : List Char) :
    distance? bias k w i (digits bias k q ++ rest) = some (i + q * w, rest) := by
  -- `i` is what the digits before were worth, and `w` the weight of the next one
  fun_induction digits bias k q generalizing w i with
  | case1 k q t hlt =>
    have ht := threshold_le k bias
    rw [List.cons_append, List.nil_append, distance?, digitValue?_digitChar q (by omega)]
    simp only [Option.bind_eq_bind, Option.bind_some]
    rw [if_pos hlt]
    rfl
  | case2 k q t hge ih =>
    have ht := threshold_le k bias
    have hmod := Nat.mod_lt (q - t) (show 36 - t > 0 by omega)
    have hdiv := Nat.mod_add_div (q - t) (36 - t)
    rw [List.cons_append, distance?, digitValue?_digitChar _ (by omega)]
    simp only [Option.bind_eq_bind, Option.bind_some]
    rw [if_neg (by omega), ih]
    -- the digit and the quotient make up the distance
    have hq : q = (t + (q - t) % (36 - t)) + (36 - t) * ((q - t) / (36 - t)) := by omega
    have hsum : (t + (q - t) % (36 - t)) * w + (q - t) / (36 - t) * (w * (36 - t)) = q * w := by
      conv_rhs => rw [hq]
      ring
    rw [Nat.add_assoc, hsum]

/-! ### The reader -/

/-- What the reader has: the characters inserted so far, the code point and the place it has come to,
and the bias. -/
structure Reader where
  out : List Char
  n : Nat
  i : Nat
  bias : Nat

/-- Reading `t` takes the reader from one state to another, whatever follows. -/
structure Reads (t : List Char) (s s' : Reader) : Prop where
  symbols : ∀ c ∈ t, IsSymbol c
  -- no more steps than characters, so that as much fuel as there is text is enough
  steps : ∃ k ≤ t.length, ∀ fuel z,
    insertAll (fuel + k) (t ++ z) s.out s.n s.i s.bias = insertAll fuel z s'.out s'.n s'.i s'.bias

theorem Reads.refl (s : Reader) : Reads [] s s :=
  ⟨by simp, 0, by simp, fun _ _ => rfl⟩

theorem Reads.trans {t t' : List Char} {s s' s'' : Reader} (h : Reads t s s') (h' : Reads t' s' s'') :
    Reads (t ++ t') s s'' := by
  obtain ⟨k, hk, hsteps⟩ := h.steps
  obtain ⟨k', hk', hsteps'⟩ := h'.steps
  constructor
  · intro c hc
    exact (List.mem_append.1 hc).elim (h.symbols c) (h'.symbols c)
  · refine ⟨k' + k, by rw [List.length_append]; omega, fun fuel z => ?_⟩
    rw [← Nat.add_assoc, List.append_assoc, hsteps, hsteps']

theorem reads_digits {s : Reader} {m place delta : Nat} (hn : s.n ≤ m) (hplace : place ≤ s.out.length)
    (hm : m.isValidChar) (hm' : 128 ≤ m)
    (hcount : s.i + delta = (m - s.n) * (s.out.length + 1) + place) :
    Reads (digits s.bias 36 delta) s
      ⟨s.out.take place ++ Char.ofNat m :: s.out.drop place, m, place + 1,
        adapt delta (s.out.length + 1) (s.i == 0)⟩ := by
  have hne := digits_ne_nil s.bias 36 delta
  refine ⟨digits_isSymbol _ _ _, 1, Nat.pos_of_ne_zero fun h => hne (List.length_eq_zero_iff.1 h),
    fun fuel z => ?_⟩
  have hdistance := distance?_digits s.bias 36 delta 1 s.i z
  obtain ⟨c, cs, hcs⟩ := List.exists_cons_of_ne_nil hne
  rw [hcs, List.cons_append] at hdistance ⊢
  rw [insertAll, hdistance]
  simp only [Option.bind_eq_bind, Option.bind_some, Nat.mul_one, hcount]
  -- one round over the places leads to the next code point
  have hdiv : ((m - s.n) * (s.out.length + 1) + place) / (s.out.length + 1) = m - s.n := by
    rw [Nat.add_comm, Nat.add_mul_div_right _ _ (Nat.succ_pos _), Nat.div_eq_of_lt (by omega),
      Nat.zero_add]
  have hmod : ((m - s.n) * (s.out.length + 1) + place) % (s.out.length + 1) = place := by
    rw [Nat.add_comm, Nat.add_mul_mod_self_right, Nat.mod_eq_of_lt (by omega)]
  rw [hdiv, hmod, Nat.add_sub_cancel' hn, if_neg (by simp [hm, hm']), ← hcount, Nat.add_sub_cancel_left]
  · simp

/-! ### The writer -/

/-- What the writer adds on its way from `e` to `e'` takes the reader from `s` to `s'`. -/
def Writes (e e' : Encoder) (s s' : Reader) : Prop := ∃ t, e'.out = e.out ++ t ∧ Reads t s s'

theorem Writes.of_out_eq {e e' : Encoder} (h : e'.out = e.out) (s : Reader) : Writes e e' s s :=
  ⟨[], by rw [h, List.append_nil], Reads.refl s⟩

theorem Writes.trans {e e' e'' : Encoder} {s s' s'' : Reader} (h : Writes e e' s s')
    (h' : Writes e' e'' s' s'') : Writes e e'' s s'' := by
  obtain ⟨t, hout, hreads⟩ := h
  obtain ⟨t', hout', hreads'⟩ := h'
  exact ⟨t ++ t', by rw [hout', hout, List.append_assoc], hreads.trans hreads'⟩

/-- The characters handled when the writer, busy with the code point `m`, stands between `before` and
`behind`. -/
def handledChars (m : Nat) (before behind : List Char) : List Char :=
  before.filter (·.toNat ≤ m) ++ behind.filter (·.toNat < m)

/-- The writer, at code point `m` between `before` and `behind`, is as far ahead of the reader as its
count says. -/
structure Agrees (basic m : Nat) (before behind : List Char) (e : Encoder) (s : Reader) : Prop where
  out : s.out = handledChars m before behind
  handled : e.handled = s.out.length
  bias : s.bias = e.bias
  le : s.n ≤ m
  count : s.i + e.delta = (m - s.n) * (s.out.length + 1) + (before.filter (·.toNat ≤ m)).length
  -- both damp the first distance
  first : (s.i == 0) = (e.handled == basic)
  basic_le : basic ≤ e.handled

theorem Agrees.pass_handled {basic m : Nat} {before behind : List Char} {c : Char} {e : Encoder}
    {s : Reader} (h : Agrees basic m before (c :: behind) e s) (hc : c.toNat < m) :
    Agrees basic m (before ++ [c]) behind { e with delta := e.delta + 1 } s where
  out := by rw [h.out]; simp [handledChars, hc, Nat.le_of_lt hc]
  handled := h.handled
  bias := h.bias
  le := h.le
  count := by
    have hcount := h.count
    have hfilter : ((before ++ [c]).filter (·.toNat ≤ m)).length =
        (before.filter (·.toNat ≤ m)).length + 1 := by
      simp [Nat.le_of_lt hc]
    rw [hfilter]
    show s.i + (e.delta + 1) = _
    omega
  first := h.first
  basic_le := h.basic_le

theorem Agrees.pass_later {basic m : Nat} {before behind : List Char} {c : Char} {e : Encoder}
    {s : Reader} (h : Agrees basic m before (c :: behind) e s) (hc : m < c.toNat) :
    Agrees basic m (before ++ [c]) behind e s where
  out := by rw [h.out]; simp [handledChars, Nat.not_le.2 hc, Nat.not_lt.2 (Nat.le_of_lt hc)]
  handled := h.handled
  bias := h.bias
  le := h.le
  count := by
    rw [h.count]
    simp [Nat.not_le.2 hc]
  first := h.first
  basic_le := h.basic_le

theorem Agrees.pass_current {basic : Nat} {before behind : List Char} {c : Char} {e : Encoder}
    {s : Reader} (h : Agrees basic c.toNat before (c :: behind) e s) (hc : 128 ≤ c.toNat) :
    ∃ s', Reads (digits e.bias 36 e.delta) s s' ∧
      Agrees basic c.toNat (before ++ [c]) behind
        { out := e.out ++ digits e.bias 36 e.delta
          delta := 0
          bias := adapt e.delta (e.handled + 1) (e.handled == basic)
          handled := e.handled + 1 } s' := by
  have hout : s.out = before.filter (·.toNat ≤ c.toNat) ++ behind.filter (·.toNat < c.toNat) := by
    rw [h.out]
    simp [handledChars]
  have hplace : (before.filter (·.toNat ≤ c.toNat)).length ≤ s.out.length := by
    rw [hout, List.length_append]
    omega
  -- the place counted is the one behind the handled characters of `before`
  have hreads := reads_digits h.le hplace c.valid hc h.count
  rw [Char.ofNat_toNat, hout, List.take_left, List.drop_left, ← hout, h.bias] at hreads
  refine ⟨_, hreads, ?_, ?_, ?_, Nat.le_refl _, ?_, ?_, ?_⟩
  · simp [handledChars]
  · rw [h.handled, hout]
    simp
    omega
  · rw [h.handled, h.first, h.handled]
  · simp
  · have hbasic := h.basic_le
    have hlt : ¬e.handled + 1 = basic := by omega
    simp [hlt]
  · exact Nat.le_succ_of_le h.basic_le

theorem pass_agrees {basic m : Nat} {before behind : List Char} {c : Char} {e : Encoder} {s : Reader}
    (hm : 128 ≤ m) (h : Agrees basic m before (c :: behind) e s) :
    ∃ s', Writes e (e.pass basic m c) s s' ∧
      Agrees basic m (before ++ [c]) behind (e.pass basic m c) s' := by
  unfold Encoder.pass
  rcases Nat.lt_trichotomy c.toNat m with hlt | rfl | hgt
  · rw [if_pos hlt]
    exact ⟨s, Writes.of_out_eq rfl s, h.pass_handled hlt⟩
  · rw [if_neg (Nat.lt_irrefl _), if_pos rfl]
    obtain ⟨s', hreads, hagrees⟩ := h.pass_current hm
    exact ⟨s', ⟨_, rfl, hreads⟩, hagrees⟩
  · rw [if_neg (by omega), if_neg (by omega)]
    exact ⟨s, Writes.of_out_eq rfl s, h.pass_later hgt⟩

theorem foldl_pass_agrees {basic m : Nat} {before behind : List Char} {e : Encoder} {s : Reader}
    (hm : 128 ≤ m) (h : Agrees basic m before behind e s) :
    ∃ s', Writes e (behind.foldl (Encoder.pass basic m) e) s s' ∧
      Agrees basic m (before ++ behind) [] (behind.foldl (Encoder.pass basic m) e) s' := by
  induction behind generalizing before e s with
  | nil => exact ⟨s, Writes.of_out_eq rfl s, by rw [List.append_nil]; exact h⟩
  | cons c behind ih =>
    obtain ⟨s', hwrites, hagrees⟩ := pass_agrees hm h
    obtain ⟨s'', hwrites', hagrees'⟩ := ih hagrees
    exact ⟨s'', hwrites.trans hwrites', by rw [List.append_cons]; exact hagrees'⟩

theorem Agrees.raise {basic n m : Nat} {label : List Char} {e : Encoder} {s : Reader}
    (h : Agrees basic n [] label e s) (hle : n ≤ m)
    (hnone : ∀ c ∈ label, c.toNat < m → c.toNat < n) :
    Agrees basic m [] label { e with delta := e.delta + (m - n) * (e.handled + 1) } s where
  out := by
    rw [h.out]
    simp only [handledChars, List.filter_nil, List.nil_append]
    refine List.filter_congr fun c hc => ?_
    rw [decide_eq_decide]
    exact ⟨fun hlt => by omega, hnone c hc⟩
  handled := h.handled
  bias := h.bias
  le := Nat.le_trans h.le hle
  count := by
    have hcount := h.count
    have hsplit : m - s.n = (n - s.n) + (m - n) := by
      have := h.le
      omega
    rw [hsplit, Nat.add_mul]
    show s.i + (e.delta + (m - n) * (e.handled + 1)) = _
    rw [h.handled]
    simp only [List.filter_nil, List.length_nil] at hcount ⊢
    omega
  first := h.first
  basic_le := h.basic_le

theorem Agrees.next {basic m : Nat} {label : List Char} {e : Encoder} {s : Reader}
    (h : Agrees basic m label [] e s) :
    Agrees basic (m + 1) [] label { e with delta := e.delta + 1 } s := by
  have hout : s.out = label.filter (·.toNat ≤ m) := by
    rw [h.out]
    simp [handledChars]
  refine ⟨?_, h.handled, h.bias, Nat.le_succ_of_le h.le, ?_, h.first, h.basic_le⟩
  · rw [hout]
    simp only [handledChars, List.filter_nil, List.nil_append, Nat.lt_succ_iff]
  · have hcount := h.count
    have hsplit : m + 1 - s.n = (m - s.n) + 1 := by
      have := h.le
      omega
    rw [← hout] at hcount
    rw [hsplit, Nat.add_mul, Nat.one_mul]
    show s.i + (e.delta + 1) = _
    simp only [List.filter_nil, List.length_nil]
    omega

/-- The writer's run over the code points that are left makes the reader complete the label. -/
theorem run_writes {basic : Nat} {label : List Char} (ms : List Nat) {n : Nat} {e : Encoder}
    {s : Reader} (h : Agrees basic n [] label e s) (hn : 128 ≤ n)
    (hsorted : ms.Pairwise (· < ·)) (hge : ∀ m ∈ ms, n ≤ m)
    (hall : ∀ c ∈ label, n ≤ c.toNat → c.toNat ∈ ms) :
    ∃ s', Writes e (Encoder.run label basic ms n e) s s' ∧ s'.out = label := by
  induction ms generalizing n e s with
  | nil =>
    -- no code point is left, so every character has been handled
    refine ⟨s, Writes.of_out_eq rfl s, ?_⟩
    rw [h.out]
    simp only [handledChars, List.filter_nil, List.nil_append, List.filter_eq_self,
      decide_eq_true_eq]
    intro c hc
    exact Nat.lt_of_not_le fun hle => List.not_mem_nil (hall c hc hle)
  | cons m ms ih =>
    have hm : n ≤ m := hge m List.mem_cons_self
    have hrest := List.pairwise_cons.1 hsorted
    -- the list has all code points from `n` on in order, so none of them lies before `m`
    have hraised := h.raise hm fun c hc hlt => Nat.lt_of_not_le fun hle => by
      rcases List.mem_cons.1 (hall c hc hle) with heq | hmem
      · omega
      · have := hrest.1 _ hmem
        omega
    obtain ⟨s', hwrites, hagrees⟩ := foldl_pass_agrees (by omega) hraised
    obtain ⟨s'', hwrites', hout⟩ := ih hagrees.next (by omega) hrest.2
      (fun k hk => hrest.1 k hk) fun c hc hle => by
        rcases List.mem_cons.1 (hall c hc (by omega)) with heq | hmem
        · omega
        · exact hmem
    exact ⟨s'', (Writes.of_out_eq rfl s).trans (hwrites.trans hwrites'), hout⟩

/-! ### Labels -/

theorem pairwise_lt_eraseDups (l : List Nat) (h : l.Pairwise (· ≤ ·)) :
    l.eraseDups.Pairwise (· < ·) := by
  match l with
  | [] => simp
  | a :: l =>
    have hcons := List.pairwise_cons.1 h
    rw [List.eraseDups_cons, List.pairwise_cons]
    constructor
    · intro b hb
      have hb' := List.mem_filter.1 (List.mem_eraseDups.1 hb)
      have hle := hcons.1 b hb'.1
      have hne : b ≠ a := by simpa using hb'.2
      omega
    · exact pairwise_lt_eraseDups _ (hcons.2.filter _)
termination_by l.length
decreasing_by
  have := List.length_filter_le (fun b => !b == a) l
  simp only [List.length_cons]
  omega

def basicChars (label : List Char) : List Char := label.filter (·.toNat < 128)

def codePoints (label : List Char) : List Nat :=
  (((label.filter (128 ≤ ·.toNat)).map Char.toNat).mergeSort (· ≤ ·)).eraseDups

theorem mem_codePoints {label : List Char} {m : Nat} :
    m ∈ codePoints label ↔ 128 ≤ m ∧ ∃ c ∈ label, c.toNat = m := by
  simp only [codePoints, List.mem_eraseDups, List.mem_mergeSort, List.mem_map, List.mem_filter,
    decide_eq_true_eq]
  constructor
  · rintro ⟨c, ⟨hc, hge⟩, rfl⟩
    exact ⟨hge, c, hc, rfl⟩
  · rintro ⟨hge, c, hc, rfl⟩
    exact ⟨c, ⟨hc, hge⟩, rfl⟩

theorem pairwise_codePoints (label : List Char) : (codePoints label).Pairwise (· < ·) := by
  refine pairwise_lt_eraseDups _ ?_
  have htrans : ∀ a b c : Nat, decide (a ≤ b) = true → decide (b ≤ c) = true →
      decide (a ≤ c) = true := by
    simpa using fun a b c => Nat.le_trans
  have htotal : ∀ a b : Nat, (decide (a ≤ b) || decide (b ≤ a)) = true := by
    simpa using Nat.le_total
  exact (List.pairwise_mergeSort htrans htotal _).imp of_decide_eq_true

/-- An encoded label is its basic characters, a hyphen behind them if there are any, and symbols that
make the reader insert the others. -/
theorem encode_eq (label : List Char) :
    ∃ t s, encode label = (if basicChars label = [] then [] else basicChars label ++ ['-']) ++ t ∧
      Reads t ⟨basicChars label, 128, 0, 72⟩ s ∧ s.out = label := by
  -- at the start both have the basic characters and nothing else
  have hstart : Agrees (basicChars label).length 128 [] label ⟨[], 0, 72, (basicChars label).length⟩
      ⟨basicChars label, 128, 0, 72⟩ :=
    ⟨by simp [handledChars, basicChars], rfl, rfl, Nat.le_refl _, by simp, by simp, Nat.le_refl _⟩
  obtain ⟨s, ⟨t, hout, hreads⟩, hlabel⟩ := run_writes (codePoints label) hstart (Nat.le_refl _)
    (pairwise_codePoints label) (fun m hm => (mem_codePoints.1 hm).1)
    fun c hc hle => mem_codePoints.2 ⟨hle, c, hc, rfl⟩
  refine ⟨t, s, ?_, hreads, hlabel⟩
  rw [List.nil_append] at hout
  simp only [encode, List.isEmpty_iff]
  exact congrArg _ hout

theorem isSymbol_ascii {c : Char} (h : IsSymbol c) : c.toNat < 128 ∧ c ≠ '-' := by
  obtain ⟨d, hd, rfl⟩ := h
  revert d
  decide

theorem Reads.insertAll_eq {t : List Char} {s s' : Reader} (h : Reads t s s') :
    insertAll t.length t s.out s.n s.i s.bias = some s'.out := by
  obtain ⟨k, hk, hsteps⟩ := h.steps
  have hall := hsteps (t.length - k) []
  rw [Nat.sub_add_cancel hk, List.append_nil] at hall
  rw [hall, insertAll]

theorem takeWhile_reverse_tail {front t : List Char} (ht : ∀ c ∈ t, c ≠ '-')
    (hfront : front = [] ∨ ∃ b, front = b ++ ['-']) :
    ((front ++ t).reverse.takeWhile (· ≠ '-')).reverse = t := by
  rw [List.reverse_append, List.takeWhile_append_of_pos (by simpa using ht)]
  rcases hfront with rfl | ⟨b, rfl⟩ <;> simp

theorem decode?_encode (label : List Char) : decode? (encode label) = some label := by
  obtain ⟨t, s, hencode, hreads, hlabel⟩ := encode_eq label
  have hsymbols : ∀ c ∈ t, c.toNat < 128 ∧ c ≠ '-' := fun c hc => isSymbol_ascii (hreads.symbols c hc)
  have hinsert := hreads.insertAll_eq
  rw [hlabel] at hinsert
  have hbasic : ∀ c ∈ basicChars label, c.toNat < 128 := fun c hc => by
    simpa using (List.mem_filter.1 hc).2
  unfold decode?
  by_cases hnil : basicChars label = []
  · rw [if_pos hnil, List.nil_append] at hencode
    have htail := takeWhile_reverse_tail (fun c hc => (hsymbols c hc).2) (.inl rfl : ([] : List Char) = [] ∨ _)
    rw [List.nil_append] at htail
    simp only [hencode, htail, Nat.sub_self, Nat.zero_sub, List.take_zero]
    rw [if_pos (by simpa using fun c hc => (hsymbols c hc).1), ← hnil]
    exact hinsert
  · rw [if_neg hnil] at hencode
    have htail := takeWhile_reverse_tail (fun c hc => (hsymbols c hc).2) (.inr ⟨basicChars label, rfl⟩)
    have htake : (basicChars label ++ ['-'] ++ t).take
        ((basicChars label ++ ['-'] ++ t).length - t.length - 1) = basicChars label := by
      have hlength : (basicChars label ++ ['-'] ++ t).length - t.length - 1 = (basicChars label).length := by
        simp only [List.length_append, List.length_singleton]
        omega
      rw [hlength, List.append_assoc, List.take_left]
    simp only [hencode, htail, htake]
    rw [if_pos]
    · exact hinsert
    · simp only [List.all_append, Bool.and_eq_true, List.all_eq_true, decide_eq_true_eq]
      exact ⟨⟨hbasic, by simp⟩, fun c hc => (hsymbols c hc).1⟩

/-! ### The characters of an encoded label -/

theorem mem_encode {label : List Char} {c : Char} (h : c ∈ encode label) :
    (c ∈ label ∧ c.toNat < 128) ∨ c = '-' ∨ IsSymbol c := by
  obtain ⟨t, s, hencode, hreads, -⟩ := encode_eq label
  rw [hencode, List.mem_append] at h
  rcases h with h | h
  · split at h
    · exact absurd h List.not_mem_nil
    · rcases List.mem_append.1 h with h | h
      · have hmem := List.mem_filter.1 h
        exact .inl ⟨hmem.1, by simpa using hmem.2⟩
      · exact .inr (.inl (List.mem_singleton.1 h))
  · exact .inr (.inr (hreads.symbols c h))

theorem getLast?_encode {label : List Char} (h : ∃ c ∈ label, 128 ≤ c.toNat) :
    ∃ c, (encode label).getLast? = some c ∧ IsSymbol c := by
  obtain ⟨t, s, hencode, hreads, hlabel⟩ := encode_eq label
  have ht : t ≠ [] := by
    rintro rfl
    -- with nothing to read, the label would be its basic part
    have hinsert := hreads.insertAll_eq
    rw [List.length_nil, insertAll, hlabel, Option.some.injEq] at hinsert
    obtain ⟨c, hc, hge⟩ := h
    rw [← hinsert] at hc
    have hlt : c.toNat < 128 := by simpa using (List.mem_filter.1 hc).2
    omega
  refine ⟨t.getLast ht, ?_, hreads.symbols _ (List.getLast_mem ht)⟩
  rw [hencode, List.getLast?_append_of_ne_nil _ ht, List.getLast?_eq_some_getLast ht]

end Relay.Url.Punycode
