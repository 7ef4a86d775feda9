import Relay.Url.Ipv4
import Relay.Url.Ipv6
import Relay.Proofs.Text

/-!
Addresses read back: the written form of an address of either family spells that address. An address
that was read has eight pieces, and the run that its written form leaves out is a run of zeros.
-/

namespace Relay.Url

/-! ### IPv4 -/

namespace Ipv4

def octets (a : UInt32) : List Nat :=
  [a.toNat / 16777216, a.toNat / 65536 % 256, a.toNat / 256 % 256, a.toNat % 256]

theorem octets_lt (a : UInt32) : ∀ n ∈ octets a, n < 256 := by
  have ha := a.toNat_lt
  simp only [octets, List.mem_cons, List.not_mem_nil, or_false]
  rintro n (rfl | rfl | rfl | rfl) <;> omega

theorem number?_toDigits : ∀ n < 256, number? (Nat.toDigits 10 n) = some (some n) := by
  decide +kernel

theorem toList_text (a : UInt32) :
    (text a).toList = ['.'].intercalate ((octets a).map (Nat.toDigits 10)) := by
  simp [text, octets, List.intercalate, List.intersperse, String.toList_append, toString]

theorem dot_notMem_toDigits (n : Nat) : '.' ∉ Nat.toDigits 10 n := by
  intro h
  have hdigit := Nat.isDigit_of_mem_toDigits (by decide) (by decide) h
  revert hdigit
  decide

theorem splitOn_text (a : UInt32) :
    (text a).toList.splitOn '.' = (octets a).map (Nat.toDigits 10) := by
  rw [toList_text]
  refine List.splitOn_intercalate '.' (fun l hl => ?_) (by simp [octets])
  obtain ⟨n, -, rfl⟩ := List.mem_map.1 hl
  exact dot_notMem_toDigits n

theorem labels_text (a : UInt32) : labels (text a).toList = (octets a).map (Nat.toDigits 10) := by
  unfold labels
  simp only [splitOn_text]
  rw [if_neg]
  simp [octets]

theorem endsInNumber_text (a : UInt32) : endsInNumber (text a).toList = true := by
  have hlast : (labels (text a).toList).getLast? = some (Nat.toDigits 10 (a.toNat % 256)) := by
    rw [labels_text]
    rfl
  unfold endsInNumber
  rw [hlast]
  simp [number?_toDigits (a.toNat % 256) (Nat.mod_lt _ (by decide))]

theorem parse?_text (a : UInt32) : parse? (text a).toList = some a := by
  have ha := a.toNat_lt
  have hnumbers : ((octets a).map (Nat.toDigits 10)).mapM (fun p => (number? p).join) =
      some (octets a) := by
    rw [mapM_eq_some_iff, List.map_map]
    refine List.map_congr_left fun n hn => ?_
    show (number? (Nat.toDigits 10 n)).join = some n
    rw [number?_toDigits n (octets_lt a n hn)]
    rfl
  -- three bytes stand before the last one, which has one byte left to fill
  have hlast : (octets a).getLast? = some (a.toNat % 256) := rfl
  have hheads : (octets a).dropLast =
      [a.toNat / 16777216, a.toNat / 65536 % 256, a.toNat / 256 % 256] := rfl
  have hin : ¬(Nat.pow 256 1 ≤ a.toNat % 256 ∨ (octets a).dropLast.any (· > 255) = true) := by
    rw [hheads, show Nat.pow 256 1 = 256 from rfl]
    simp only [List.any_cons, List.any_nil, Bool.or_false, Bool.or_eq_true, decide_eq_true_eq]
    omega
  have hvalue : (octets a).dropLast.foldl (fun n h => 256 * n + h) 0 * Nat.pow 256 1 +
      a.toNat % 256 = a.toNat := by
    rw [hheads, show Nat.pow 256 1 = 256 from rfl]
    simp only [List.foldl_cons, List.foldl_nil]
    omega
  unfold parse?
  simp only [labels_text, hnumbers, hlast, Option.bind_eq_bind, Option.bind_some]
  rw [if_neg (by simp [octets]), show 4 - (octets a).dropLast.length = 1 from rfl, if_neg hin, hvalue]
  exact congrArg some (UInt32.ofNat_toNat)

theorem mem_text {a : UInt32} {c : Char} (h : c ∈ (text a).toList) : c = '.' ∨ c.isDigit := by
  rw [toList_text] at h
  rcases mem_intercalate h with h | ⟨l, hl, hc⟩
  · exact .inl (List.mem_singleton.1 h)
  · obtain ⟨n, -, rfl⟩ := List.mem_map.1 hl
    exact .inr (Nat.isDigit_of_mem_toDigits (by decide) (by decide) hc)

end Ipv4

/-! ### IPv6 -/

namespace Ipv6

theorem hexValue?_digitChar : ∀ d < 16, Ascii.hexValue? (Nat.digitChar d) = some d := by decide

theorem foldl_toDigits (n : Nat) :
    (Nat.toDigits 16 n).foldl (fun n c => 16 * n + (Ascii.hexValue? c).getD 0) 0 = n := by
  induction n using Nat.strongRecOn with
  | ind n ih =>
    by_cases hn : n < 16
    · rw [Nat.toDigits_of_lt_base hn]
      simp [hexValue?_digitChar n hn]
    · rw [Nat.toDigits_of_base_le (by decide) (by omega), List.foldl_append, ih (n / 16) (by omega)]
      simp only [List.foldl_cons, List.foldl_nil, hexValue?_digitChar _ (Nat.mod_lt n (by decide)),
        Option.getD_some]
      omega

theorem isHexDigit_toDigits (n : Nat) : ∀ c ∈ Nat.toDigits 16 n, Ascii.isHexDigit c = true := by
  induction n using Nat.strongRecOn with
  | ind n ih =>
    intro c hc
    by_cases hn : n < 16
    · rw [Nat.toDigits_of_lt_base hn, List.mem_singleton] at hc
      rw [hc, Ascii.isHexDigit, hexValue?_digitChar n hn]
      rfl
    · rw [Nat.toDigits_of_base_le (by decide) (by omega), List.mem_append, List.mem_singleton] at hc
      rcases hc with hc | hc
      · exact ih (n / 16) (by omega) c hc
      · rw [hc, Ascii.isHexDigit, hexValue?_digitChar _ (Nat.mod_lt n (by decide))]
        rfl

theorem pieceText_ne_nil (p : UInt16) : pieceText p ≠ [] := Nat.toDigits_ne_nil

theorem length_pieceText (p : UInt16) : (pieceText p).length ≤ 4 := by
  have hp := p.toNat_lt
  rw [pieceText, Nat.length_toDigits_le_iff (by decide) (by decide)]
  omega

theorem isHexDigit_pieceText (p : UInt16) : ∀ c ∈ pieceText p, Ascii.isHexDigit c = true :=
  isHexDigit_toDigits p.toNat

/-! What reading does behind the digits of a piece. -/

theorem takeWhile_pieceText (p : UInt16) {t : List Char}
    (ht : ∀ c, t.head? = some c → Ascii.isHexDigit c = false) :
    ((pieceText p ++ t).take 4).takeWhile Ascii.isHexDigit = pieceText p := by
  -- where a piece has fewer than four digits, what follows it is looked at and is no digit
  have hrest : (t.take (4 - (pieceText p).length)).takeWhile Ascii.isHexDigit = [] := by
    cases t with
    | nil => simp
    | cons c t =>
      cases hk : 4 - (pieceText p).length with
      | zero => simp
      | succ k => simp [ht c rfl]
  rw [List.take_append, List.take_of_length_le (length_pieceText p),
    List.takeWhile_append_of_pos (isHexDigit_pieceText p), hrest, List.append_nil]

theorem pieceText_append_eq (p : UInt16) (t : List Char) :
    ∃ c cs, pieceText p ++ t = c :: cs ∧ c ≠ ':' := by
  obtain ⟨c, cs, hcs⟩ := List.exists_cons_of_ne_nil (pieceText_ne_nil p)
  refine ⟨c, cs ++ t, by rw [hcs, List.cons_append], ?_⟩
  rintro rfl
  have hhex := isHexDigit_toDigits p.toNat ':' (by rw [← pieceText, hcs]; exact List.mem_cons_self)
  revert hhex
  decide

/-- Reading a piece takes its digits, and the colon behind them if there is one. -/
theorem read_pieceText (p : UInt16) (fuel : Nat) {d : Draft} (hd : d.pieces.length < 8) :
    read (fuel + 1) (pieceText p) d = some ⟨d.pieces ++ [p.toNat], d.gap⟩ ∧
      ∀ rest ≠ [], read (fuel + 1) (pieceText p ++ ':' :: rest) d =
        read fuel rest ⟨d.pieces ++ [p.toNat], d.gap⟩ := by
  have hvalue : (pieceText p).foldl (fun n c => 16 * n + (Ascii.hexValue? c).getD 0) 0 = p.toNat :=
    foldl_toDigits p.toNat
  -- the digits are taken in the same way at the end and before a colon
  have hstep : ∀ t : List Char, (∀ c, t.head? = some c → c = ':') →
      read (fuel + 1) (pieceText p ++ t) d =
        if t = [] then some ⟨d.pieces ++ [p.toNat], d.gap⟩
        else if t.tail.isEmpty then none
        else read fuel t.tail ⟨d.pieces ++ [p.toNat], d.gap⟩ := by
    intro t ht
    have htake := takeWhile_pieceText p (t := t) fun c hc => by rw [ht c hc]; decide
    have hdrop : (pieceText p ++ t).drop (pieceText p).length = t := List.drop_left
    obtain ⟨c, cs, hcs, hcolon⟩ := pieceText_append_eq p t
    rw [hcs] at htake hdrop ⊢
    rw [read]
    · rw [if_neg (Nat.not_le.2 hd)]
      simp only [htake, hdrop, hvalue]
      cases t with
      | nil => rfl
      | cons e rest =>
        obtain rfl := ht e rfl
        cases rest <;> rfl
    · simp
    · rintro rest heq
      exact hcolon (List.cons.inj heq).1
  refine ⟨?_, fun rest hrest => ?_⟩
  · rw [← List.append_nil (pieceText p), hstep [] (by simp), if_pos rfl]
  · rw [hstep (':' :: rest) (by simp), if_neg (by simp), if_neg (by simpa using hrest), List.tail_cons]

/-! Reading pieces one after another. -/

theorem joined_cons_cons (p q : UInt16) (ps : List UInt16) :
    joined (p :: q :: ps) = pieceText p ++ ':' :: joined (q :: ps) := by
  simp [joined]

theorem joined_ne_nil {ps : List UInt16} (h : ps ≠ []) : joined ps ≠ [] := by
  match ps with
  | [p] => simpa [joined] using pieceText_ne_nil p
  | p :: q :: ps => simp [joined_cons_cons]

theorem read_joined (ps : List UInt16) {fuel : Nat} {d : Draft} (hfuel : ps.length ≤ fuel)
    (hd : d.pieces.length + ps.length ≤ 8) :
    read fuel (joined ps) d = some ⟨d.pieces ++ ps.map UInt16.toNat, d.gap⟩ := by
  induction ps generalizing fuel d with
  | nil => cases fuel <;> simp [joined, read]
  | cons p ps ih =>
    rw [List.length_cons] at hfuel hd
    obtain ⟨fuel, rfl⟩ : ∃ k, fuel = k + 1 := ⟨fuel - 1, by omega⟩
    have hpiece := read_pieceText p fuel (d := d) (by omega)
    cases ps with
    | nil => simpa [joined] using hpiece.1
    | cons q qs =>
      rw [joined_cons_cons, hpiece.2 _ (joined_ne_nil (by simp)), ih (by omega)]
      · simp
      · rw [List.length_append, List.length_singleton]
        omega

theorem read_joined_append {ps : List UInt16} (hps : ps ≠ []) {rest : List Char} (hrest : rest ≠ [])
    (fuel : Nat) {d : Draft} (hd : d.pieces.length + ps.length ≤ 8) :
    read (ps.length + fuel) (joined ps ++ ':' :: rest) d =
      read fuel rest ⟨d.pieces ++ ps.map UInt16.toNat, d.gap⟩ := by
  induction ps generalizing d with
  | nil => exact absurd rfl hps
  | cons p ps ih =>
    rw [List.length_cons] at hd
    rw [List.length_cons, Nat.add_right_comm]
    have hpiece := read_pieceText p (ps.length + fuel) (d := d) (by omega)
    cases ps with
    | nil => simpa [joined] using hpiece.2 rest hrest
    | cons q qs =>
      rw [joined_cons_cons, List.append_assoc, List.cons_append, hpiece.2 _ (by simp), ih (by simp)]
      · simp
      · rw [List.length_append, List.length_singleton]
        omega

/-! The run that is left out. -/

theorem zeroRun_spec (ps : List UInt16) :
    ps = List.replicate (zeroRun ps) 0 ++ ps.drop (zeroRun ps) := by
  have hzeros : ps.takeWhile (· == 0) = List.replicate (zeroRun ps) 0 := by
    refine List.eq_replicate_iff.2 ⟨rfl, fun p hp => ?_⟩
    simpa using List.all_eq_true.1 List.all_takeWhile p hp
  have hdrop : ps.drop (zeroRun ps) = ps.dropWhile (· == 0) := by
    have h : (ps.takeWhile (· == 0) ++ ps.dropWhile (· == 0)).drop (zeroRun ps) =
      ps.dropWhile (· == 0) := List.drop_left
    rwa [List.takeWhile_append_dropWhile] at h
  rw [hdrop, ← hzeros, List.takeWhile_append_dropWhile]

theorem longestRun_spec {ps : List UInt16} {start run : Nat} (h : longestRun ps = some (start, run)) :
    2 ≤ run ∧ run = zeroRun (ps.drop start) := by
  -- every candidate that the fold ever holds is a run of at least two
  have hfold : ∀ (is : List Nat) (best : Option (Nat × Nat)),
      (∀ r ∈ best, 2 ≤ r.2 ∧ r.2 = zeroRun (ps.drop r.1)) →
      ∀ r ∈ is.foldl (fun best i =>
        let run := zeroRun (ps.drop i)
        if run ≥ 2 ∧ (best.map (·.2)).getD 0 < run then some (i, run) else best) best,
        2 ≤ r.2 ∧ r.2 = zeroRun (ps.drop r.1) := by
    intro is
    induction is with
    | nil => exact fun best hbest => hbest
    | cons i is ih =>
      intro best hbest
      refine ih _ fun r hr => ?_
      dsimp only at hr
      split at hr
      · rename_i hrun
        obtain rfl := Option.some.inj hr
        exact ⟨hrun.1, rfl⟩
      · exact hbest r hr
  exact hfold _ none (by simp) (start, run) h

theorem eq_of_longestRun {ps : List UInt16} {start run : Nat} (h : longestRun ps = some (start, run)) :
    ps = ps.take start ++ List.replicate run 0 ++ ps.drop (start + run) := by
  obtain ⟨-, hrun⟩ := longestRun_spec h
  have hzeros := zeroRun_spec (ps.drop start)
  rw [← hrun, List.drop_drop] at hzeros
  rw [List.append_assoc, ← hzeros, List.take_append_drop]

/-! Addresses that were read. -/

/-- There are never more than eight pieces, and the run that is left out lies among them. -/
def Draft.InBounds (d : Draft) : Prop := d.pieces.length ≤ 8 ∧ ∀ g ∈ d.gap, g ≤ d.pieces.length

theorem Draft.InBounds.push {d : Draft} (h : d.InBounds) {more : List Nat}
    (hmore : d.pieces.length + more.length ≤ 8) : Draft.InBounds ⟨d.pieces ++ more, d.gap⟩ := by
  refine ⟨by simpa using hmore, fun g hg => ?_⟩
  have hle := h.2 g hg
  rw [List.length_append]
  omega

theorem read_inBounds {fuel : Nat} {cs : List Char} {d d' : Draft} (h : read fuel cs d = some d')
    (hd : d.InBounds) : d'.InBounds := by
  fun_induction read fuel cs d with
  | case1 => exact Option.some.inj h ▸ hd
  | case5 fuel d hlen rest hgap _ ih =>
    -- the run that is left out ends behind the piece that it counts as
    refine ih h ⟨by simp only [List.length_append, List.length_singleton]; omega, ?_⟩
    rintro g ⟨⟩
    simp
  | case6 fuel d hlen =>
    rw [← Option.some.inj h]
    exact hd.push (by simp only [List.length_singleton]; omega)
  | case8 fuel d hlen cs _ digits tail _ hdotted =>
    rw [← Option.some.inj h]
    refine hd.push ?_
    simp only [List.length_cons, List.length_nil]
    omega
  | case11 fuel d hlen cs _ digits value rest _ _ _ ih =>
    exact ih h (hd.push (by simp only [List.length_singleton]; omega))
  | _ => simp at h

theorem draft?_inBounds {cs : List Char} {d : Draft} (h : draft? cs = some d) : d.InBounds := by
  unfold draft? at h
  split at h
  · split at h
    · exact read_inBounds h ⟨by simp, by simp⟩
    · simp at h
  · split at h
    · simp at h
    · exact read_inBounds h ⟨by simp, by simp⟩

theorem Draft.InBounds.length_filled? {d : Draft} (hd : d.InBounds) {pieces : List Nat}
    (h : d.filled? = some pieces) : pieces.length = 8 := by
  unfold Draft.filled? at h
  split at h
  · rename_i g hgap
    have hlen := hd.1
    have hg := hd.2 g hgap
    rw [← Option.some.inj h]
    simp only [List.length_append, List.length_take, List.length_replicate, List.length_drop]
    omega
  · split at h
    · rename_i hlen
      rw [← Option.some.inj h, hlen]
    · simp at h

theorem length_of_parse? {cs : List Char} {ps : List UInt16} (h : parse? cs = some ps) :
    ps.length = 8 := by
  obtain ⟨pieces, hpieces, rfl⟩ := Option.map_eq_some_iff.1 h
  obtain ⟨d, hd, hfilled⟩ := Option.bind_eq_some_iff.1 hpieces
  rw [List.length_map]
  exact (draft?_inBounds hd).length_filled? hfilled

/-! The written form. -/

theorem map_ofNat_toNat (ps : List UInt16) : (ps.map UInt16.toNat).map UInt16.ofNat = ps := by
  rw [List.map_map]
  exact List.map_id'' (fun p => UInt16.ofNat_toNat) ps

theorem toList_text_of_none {ps : List UInt16} (h : longestRun ps = none) :
    (text ps).toList = joined ps := by
  rw [text, h, String.toList_ofList]

theorem toList_text_of_some {ps : List UInt16} {start run : Nat} (h : longestRun ps = some (start, run)) :
    (text ps).toList = joined (ps.take start) ++ ':' :: ':' :: joined (ps.drop (start + run)) := by
  rw [text, h, String.toList_ofList, List.append_assoc]
  rfl

theorem joined_append_eq {ps : List UInt16} (hps : ps ≠ []) (t : List Char)
    (ht : 2 ≤ ps.length ∨ t ≠ []) : ∃ c e rest, joined ps ++ t = c :: e :: rest ∧ c ≠ ':' := by
  obtain ⟨p, ps, rfl⟩ := List.exists_cons_of_ne_nil hps
  have hmore : ∃ u, joined (p :: ps) ++ t = pieceText p ++ u ∧ u ≠ [] := by
    cases ps with
    | nil => exact ⟨t, by simp [joined], by simpa using ht⟩
    | cons q qs =>
      exact ⟨':' :: joined (q :: qs) ++ t, by rw [joined_cons_cons, List.append_assoc], by simp⟩
  obtain ⟨u, hu, hne⟩ := hmore
  obtain ⟨c, cs, hcs, hcolon⟩ := pieceText_append_eq p u
  have hlen := congrArg List.length hcs
  have hpiece := List.length_pos_iff.2 (pieceText_ne_nil p)
  have hulen := List.length_pos_iff.2 hne
  rw [List.length_append, List.length_cons] at hlen
  have hcsne : cs ≠ [] := by
    rintro rfl
    rw [List.length_nil] at hlen
    omega
  obtain ⟨e, rest, rfl⟩ := List.exists_cons_of_ne_nil hcsne
  exact ⟨c, e, rest, hu.trans hcs, hcolon⟩

theorem draft?_eq_read {cs : List Char} {c e : Char} {rest : List Char} (hcs : cs = c :: e :: rest)
    (hcolon : c ≠ ':') : draft? cs = read cs.length cs ⟨[], none⟩ := by
  have hlength : ¬cs.length < 2 := by
    rw [hcs, List.length_cons, List.length_cons]
    omega
  unfold draft?
  split
  · exact absurd (List.cons.inj hcs).1.symm hcolon
  · rw [if_neg hlength]

theorem length_joined (ps : List UInt16) : ps.length ≤ (joined ps).length := by
  induction ps with
  | nil => simp
  | cons p ps ih =>
    have hpiece := List.length_pos_iff.2 (pieceText_ne_nil p)
    cases ps with
    | nil =>
      rw [joined, List.map_singleton, List.intercalate_singleton]
      exact hpiece
    | cons q qs =>
      rw [List.length_cons] at ih ⊢
      rw [joined_cons_cons, List.length_append, List.length_cons, List.length_cons]
      omega

theorem read_colon (fuel : Nat) (rest : List Char) {pieces : List Nat} (h : pieces.length < 8) :
    read (fuel + 1) (':' :: rest) ⟨pieces, none⟩ =
      read fuel rest ⟨pieces ++ [0], some (pieces.length + 1)⟩ := by
  rw [read]
  exact if_neg (Nat.not_le.2 h)

/-- What a text with two colons spells: the pieces before them, a run, and the pieces behind. -/
theorem draft?_gap {front back : List UInt16} (h : front.length + back.length < 8) :
    draft? (joined front ++ ':' :: ':' :: joined back) =
      some ⟨front.map UInt16.toNat ++ [0] ++ back.map UInt16.toNat, some (front.length + 1)⟩ := by
  have hback := length_joined back
  by_cases hfront : front = []
  · subst hfront
    simp only [List.length_nil, Nat.zero_add] at h
    -- at the head of the text both colons are read at once
    show read (joined back).length.succ.succ (joined back) ⟨[0], some 1⟩ = _
    rw [read_joined back (by omega) (by simp only [List.length_singleton]; omega)]
    rfl
  · obtain ⟨c, e, rest, hcs, hcolon⟩ := joined_append_eq hfront (':' :: ':' :: joined back) (.inr (by simp))
    -- there is fuel for each piece in front, for the second colon, and for the text behind it
    have hlen : (joined front ++ ':' :: ':' :: joined back).length =
        front.length + ((joined front).length - front.length + (joined back).length + 1 + 1) := by
      have hfront := length_joined front
      simp only [List.length_append, List.length_cons]
      omega
    rw [draft?_eq_read hcs hcolon, hlen, read_joined_append hfront (by simp) _ (by simp; omega),
      List.nil_append, read_colon _ _ (by rw [List.length_map]; omega), read_joined back (by omega)]
    · simp
    · simp only [List.length_append, List.length_map, List.length_singleton]
      omega

theorem filled?_gap (front back : List Nat) (h : front.length + back.length < 8) :
    Draft.filled? ⟨front ++ [0] ++ back, some (front.length + 1)⟩ =
      some (front ++ List.replicate (8 - front.length - back.length) 0 ++ back) := by
  have hlen : (front ++ [0] ++ back).length = front.length + 1 + back.length := by
    rw [List.length_append, List.length_append, List.length_singleton]
  have hfront : (front ++ [0] ++ back).take (front.length + 1) = front ++ [0] :=
    List.take_left' (by simp)
  have hback : (front ++ [0] ++ back).drop (front.length + 1) = back := List.drop_left' (by simp)
  -- the piece that the run counts as is one of its zeros
  have hzeros : [0] ++ List.replicate (8 - (front.length + 1 + back.length)) 0 =
      List.replicate (8 - front.length - back.length) 0 := by
    rw [show 8 - front.length - back.length = 8 - (front.length + 1 + back.length) + 1 by omega,
      List.replicate_succ]
    rfl
  simp only [Draft.filled?, hlen, hfront, hback]
  rw [List.append_assoc front, hzeros]

theorem parse?_text {ps : List UInt16} (hps : ps.length = 8) : parse? (text ps).toList = some ps := by
  unfold parse?
  cases hrun : longestRun ps with
  | none =>
    have hne : ps ≠ [] := by
      rintro rfl
      simp at hps
    obtain ⟨c, e, rest, hcs, hcolon⟩ := joined_append_eq hne [] (.inl (by omega))
    rw [List.append_nil] at hcs
    rw [toList_text_of_none hrun, draft?_eq_read hcs hcolon,
      read_joined ps (length_joined ps) (by simp [hps])]
    simp [Draft.filled?, hps, Function.comp_def]
  | some r =>
    obtain ⟨start, run⟩ := r
    -- a run of two leaves room for the piece that the gap counts as
    have hsplit := eq_of_longestRun hrun
    have htwo := (longestRun_spec hrun).1
    have hlen := congrArg List.length hsplit
    simp only [List.length_append, List.length_replicate, hps] at hlen
    rw [toList_text_of_some hrun, draft?_gap (by omega), Option.bind_some]
    have hfilled := filled?_gap ((ps.take start).map UInt16.toNat)
      ((ps.drop (start + run)).map UInt16.toNat) (by simp only [List.length_map]; omega)
    simp only [List.length_map] at hfilled
    rw [hfilled, show 8 - (ps.take start).length - (ps.drop (start + run)).length = run by omega,
      Option.map_some, List.map_append, List.map_append, map_ofNat_toNat, map_ofNat_toNat,
      List.map_replicate]
    exact congrArg some hsplit.symm

theorem mem_text {ps : List UInt16} {c : Char} (h : c ∈ (text ps).toList) :
    c = ':' ∨ Ascii.isHexDigit c = true := by
  have hjoined : ∀ qs : List UInt16, c ∈ joined qs → c = ':' ∨ Ascii.isHexDigit c = true := by
    intro qs hc
    rcases mem_intercalate hc with hc | ⟨l, hl, hc⟩
    · exact .inl (List.mem_singleton.1 hc)
    · obtain ⟨p, -, rfl⟩ := List.mem_map.1 hl
      exact .inr (isHexDigit_pieceText p c hc)
  cases hrun : longestRun ps with
  | none =>
    rw [toList_text_of_none hrun] at h
    exact hjoined ps h
  | some r =>
    rw [toList_text_of_some hrun, List.mem_append, List.mem_cons, List.mem_cons] at h
    rcases h with h | h | h | h
    · exact hjoined _ h
    · exact .inl h
    · exact .inl h
    · exact hjoined _ h

end Ipv6

end Relay.Url
