import Relay.Base64
import Relay.Proofs.Text

/-!
Base64 loses nothing: reading the written form of any bytes gives the bytes back, and no other text is
read as these bytes.
-/

namespace Relay.Base64

def symbolByte (n : Nat) : UInt8 := UInt8.ofNat (symbol n).toNat

theorem symbolByte_spec :
    ∀ n < 64, (symbol n).toNat < 128 ∧ value? (symbolByte n) = some n ∧ symbolByte n ≠ pad := by
  decide

theorem valueAt_symbolByte (offset : Nat) {n : Nat} (h : n < 64) :
    valueAt offset (symbolByte n) = .ok n := by
  rw [valueAt, (symbolByte_spec n h).2.1]

/-! ### The written form as bytes -/

def writtenBytes : Bytes → Bytes
  | a :: b :: c :: rest =>
    symbolByte (a.toNat / 4) :: symbolByte (a.toNat % 4 * 16 + b.toNat / 16) ::
      symbolByte (b.toNat % 16 * 4 + c.toNat / 64) :: symbolByte (c.toNat % 64) :: writtenBytes rest
  | [a, b] => [symbolByte (a.toNat / 4), symbolByte (a.toNat % 4 * 16 + b.toNat / 16),
      symbolByte (b.toNat % 16 * 4), pad]
  | [a] => [symbolByte (a.toNat / 4), symbolByte (a.toNat % 4 * 16), pad, pad]
  | [] => []

theorem encodeChars_ascii (bs : Bytes) : ∀ c ∈ encodeChars bs, c.toNat < 128 := by
  have hsymbol : ∀ n < 64, (symbol n).toNat < 128 := fun n h => (symbolByte_spec n h).1
  fun_induction encodeChars bs with
  | case1 a b c rest ih =>
    have ha := a.toNat_lt
    have hb := b.toNat_lt
    have hc := c.toNat_lt
    simp only [List.forall_mem_cons]
    exact ⟨hsymbol _ (by omega), hsymbol _ (by omega), hsymbol _ (by omega), hsymbol _ (by omega), ih⟩
  | case2 a b =>
    have ha := a.toNat_lt
    have hb := b.toNat_lt
    simp only [List.forall_mem_cons]
    exact ⟨hsymbol _ (by omega), hsymbol _ (by omega), hsymbol _ (by omega), by decide, by simp⟩
  | case3 a =>
    have ha := a.toNat_lt
    simp only [List.forall_mem_cons]
    exact ⟨hsymbol _ (by omega), hsymbol _ (by omega), by decide, by decide, by simp⟩
  | case4 => simp

theorem utf8_encode (bs : Bytes) : Utf8.encode (encode bs) = writtenBytes bs := by
  rw [encode, Utf8.encode_ofList, Utf8.encodeChars_ascii (encodeChars_ascii bs)]
  fun_induction writtenBytes bs with
  | case1 a b c rest ih => simp only [encodeChars, List.map_cons, ih, symbolByte]
  | case2 a b => simp only [encodeChars, List.map_cons, List.map_nil, symbolByte]; rfl
  | case3 a => simp only [encodeChars, List.map_cons, List.map_nil, symbolByte]; rfl
  | case4 => rfl

theorem length_writtenBytes (bs : Bytes) : (writtenBytes bs).length % 4 = 0 := by
  fun_induction writtenBytes bs with
  | case1 a b c rest ih => simp only [List.length_cons]; omega
  | case2 a b => simp
  | case3 a => simp
  | case4 => simp

theorem writtenBytes_ne_nil (b : UInt8) (rest : Bytes) :
    ∃ e more, writtenBytes (b :: rest) = e :: more := by
  match rest with
  | [] => exact ⟨_, _, rfl⟩
  | [_] => exact ⟨_, _, rfl⟩
  | _ :: _ :: _ => exact ⟨_, _, rfl⟩

/-! ### One group -/

theorem group_of_bytes (a b c : UInt8) :
    group (a.toNat / 4) (a.toNat % 4 * 16 + b.toNat / 16) (b.toNat % 16 * 4 + c.toNat / 64)
      (c.toNat % 64) = [a, b, c] := by
  have ha := a.toNat_lt
  have hb := b.toNat_lt
  have hc := c.toNat_lt
  have h1 : a.toNat / 4 * 4 + (a.toNat % 4 * 16 + b.toNat / 16) / 16 = a.toNat := by omega
  have h2 : (a.toNat % 4 * 16 + b.toNat / 16) % 16 * 16 + (b.toNat % 16 * 4 + c.toNat / 64) / 4 =
      b.toNat := by omega
  have h3 : (b.toNat % 16 * 4 + c.toNat / 64) % 4 * 64 + c.toNat % 64 = c.toNat := by omega
  simp only [group, h1, h2, h3, UInt8.ofNat_toNat]

theorem lastSymbols_cons (offset i : Nat) {n : Nat} (rest : Bytes) (h : n < 64) :
    lastSymbols offset i (symbolByte n :: rest) =
      (lastSymbols offset (i + 1) rest).map fun p => (n :: p.1, p.2) := by
  rw [lastSymbols, if_neg (symbolByte_spec n h).2.2, valueAt_symbolByte _ h]
  cases lastSymbols offset (i + 1) rest <;> rfl

/-! The last group, by the number of symbols before its padding. -/

theorem decodeLast_of_two {offset : Nat} {last : Bytes} {a b : Nat} (hne : last ≠ [])
    (h : lastSymbols offset 0 last = .ok ([a, b], 2)) (hb : b % 16 = 0) :
    decodeLast offset last = .ok ((group a b 0 0).take 1) := by
  unfold decodeLast
  simp [h, hne, hb, bind, Except.bind, pure, Except.pure]

theorem decodeLast_of_three {offset : Nat} {last : Bytes} {a b c : Nat} (hne : last ≠ [])
    (h : lastSymbols offset 0 last = .ok ([a, b, c], 1)) (hc : c % 4 = 0) :
    decodeLast offset last = .ok ((group a b c 0).take 2) := by
  unfold decodeLast
  simp [h, hne, hc, bind, Except.bind, pure, Except.pure]

theorem decodeLast_of_four {offset : Nat} {last : Bytes} {a b c d : Nat} (hne : last ≠ [])
    (h : lastSymbols offset 0 last = .ok ([a, b, c, d], 0)) :
    decodeLast offset last = .ok (group a b c d) := by
  unfold decodeLast
  simp [h, hne, bind, Except.bind, pure, Except.pure]

theorem decodeGroups_one (offset : Nat) (a : UInt8) :
    decodeGroups offset (writtenBytes [a]) = .ok [a] := by
  have ha := a.toNat_lt
  -- the padding counts as zeros: the group is that of the byte and two zero bytes
  have hlast : lastSymbols offset 2 [pad, pad] = .ok ([], 2) := rfl
  rw [writtenBytes, decodeGroups, decodeLast_of_two (by simp) (by
    rw [lastSymbols_cons _ _ _ (by omega), lastSymbols_cons _ _ _ (by omega), hlast]; rfl) (by omega)]
  · exact congrArg (fun bs => Except.ok (bs.take 1)) (group_of_bytes a 0 0)
  · simp

theorem decodeGroups_two (offset : Nat) (a b : UInt8) :
    decodeGroups offset (writtenBytes [a, b]) = .ok [a, b] := by
  have ha := a.toNat_lt
  have hb := b.toNat_lt
  have hlast : lastSymbols offset 3 [pad] = .ok ([], 1) := rfl
  rw [writtenBytes, decodeGroups, decodeLast_of_three (by simp) (by
    rw [lastSymbols_cons _ _ _ (by omega), lastSymbols_cons _ _ _ (by omega),
      lastSymbols_cons _ _ _ (by omega), hlast]; rfl) (by omega)]
  · exact congrArg (fun bs => Except.ok (bs.take 2)) (group_of_bytes a b 0)
  · simp

theorem decodeGroups_three (offset : Nat) (a b c : UInt8) :
    decodeGroups offset (writtenBytes [a, b, c]) = .ok [a, b, c] := by
  have ha := a.toNat_lt
  have hb := b.toNat_lt
  have hc := c.toNat_lt
  rw [writtenBytes, writtenBytes, decodeGroups, decodeLast_of_four (by simp) (by
    rw [lastSymbols_cons _ _ _ (by omega), lastSymbols_cons _ _ _ (by omega),
      lastSymbols_cons _ _ _ (by omega), lastSymbols_cons _ _ _ (by omega), lastSymbols]; rfl)]
  · rw [group_of_bytes]
  · simp

theorem decodeGroups_more (offset : Nat) (a b c d : UInt8) (rest : Bytes) :
    decodeGroups offset (writtenBytes (a :: b :: c :: d :: rest)) =
      (decodeGroups (offset + 4) (writtenBytes (d :: rest))).map ([a, b, c] ++ ·) := by
  have ha := a.toNat_lt
  have hb := b.toNat_lt
  have hc := c.toNat_lt
  obtain ⟨e, more, hrest⟩ := writtenBytes_ne_nil d rest
  rw [writtenBytes, hrest, decodeGroups, valueAt_symbolByte _ (by omega),
    valueAt_symbolByte _ (by omega), valueAt_symbolByte _ (by omega), valueAt_symbolByte _ (by omega)]
  simp only [bind, Except.bind, group_of_bytes]
  cases decodeGroups (offset + 4) (e :: more) <;> rfl

theorem decodeGroups_writtenBytes (bs : Bytes) (offset : Nat) :
    decodeGroups offset (writtenBytes bs) = .ok bs := by
  -- a group is the last one if nothing follows it, so a fourth byte is what tells
  match bs with
  | [] => rfl
  | [a] => exact decodeGroups_one offset a
  | [a, b] => exact decodeGroups_two offset a b
  | [a, b, c] => exact decodeGroups_three offset a b c
  | a :: b :: c :: d :: rest =>
    rw [decodeGroups_more, decodeGroups_writtenBytes (d :: rest) (offset + 4)]
    rfl

theorem decodeText_encode (bs : Bytes) : decodeText (encode bs) = .ok bs := by
  have hlength := length_writtenBytes bs
  rw [decodeText, utf8_encode, decode, strayEnd?, if_neg (by omega)]
  exact decodeGroups_writtenBytes bs 0

/-! ### Texts that are read -/

theorem value?_eq_some {b : UInt8} {n : Nat} (h : value? b = some n) : n < 64 ∧ b = symbolByte n := by
  have hbytes : ∀ m < 256, (value? (UInt8.ofNat m)).all (fun n =>
      decide (n < 64 ∧ UInt8.ofNat m = symbolByte n)) = true := by
    decide +kernel
  have hb := hbytes b.toNat b.toNat_lt
  rw [UInt8.ofNat_toNat, h] at hb
  exact of_decide_eq_true hb

theorem valueAt_eq_ok {offset n : Nat} {b : UInt8} (h : valueAt offset b = .ok n) :
    n < 64 ∧ b = symbolByte n := by
  unfold valueAt at h
  split at h
  · rename_i m hvalue
    obtain rfl : m = n := Except.ok.inj h
    exact value?_eq_some hvalue
  · cases h

section

variable {a b c d : Nat}

theorem writtenBytes_group (ha : a < 64) (hb : b < 64) (hc : c < 64) (hd : d < 64) (rest : Bytes) :
    writtenBytes (group a b c d ++ rest) =
      symbolByte a :: symbolByte b :: symbolByte c :: symbolByte d :: writtenBytes rest := by
  have h1 : (a * 4 + b / 16) / 4 = a := by omega
  have h2 : (a * 4 + b / 16) % 4 * 16 + (b % 16 * 16 + c / 4) / 16 = b := by omega
  have h3 : (b % 16 * 16 + c / 4) % 16 * 4 + (c % 4 * 64 + d) / 64 = c := by omega
  have h4 : (c % 4 * 64 + d) % 64 = d := by omega
  show writtenBytes (_ :: _ :: _ :: rest) = _
  rw [writtenBytes, Utf8.toNat_byte (by omega), Utf8.toNat_byte (by omega),
    Utf8.toNat_byte (by omega), h1, h2, h3, h4]

/-! Groups that are not full: the bits beyond the last byte have to be zero. -/

theorem writtenBytes_take_one (ha : a < 64) (hb : b < 64) (hstray : b % 16 = 0) :
    writtenBytes ((group a b 0 0).take 1) = [symbolByte a, symbolByte b, pad, pad] := by
  have h1 : (a * 4 + b / 16) / 4 = a := by omega
  have h2 : (a * 4 + b / 16) % 4 * 16 = b := by omega
  show writtenBytes [_] = _
  rw [writtenBytes, Utf8.toNat_byte (by omega), h1, h2]

theorem writtenBytes_take_two (ha : a < 64) (hb : b < 64) (hc : c < 64) (hstray : c % 4 = 0) :
    writtenBytes ((group a b c 0).take 2) = [symbolByte a, symbolByte b, symbolByte c, pad] := by
  have h1 : (a * 4 + b / 16) / 4 = a := by omega
  have h2 : (a * 4 + b / 16) % 4 * 16 + (b % 16 * 16 + c / 4) / 16 = b := by omega
  have h3 : (b % 16 * 16 + c / 4) % 16 * 4 = c := by omega
  show writtenBytes [_, _] = _
  rw [writtenBytes, Utf8.toNat_byte (by omega), Utf8.toNat_byte (by omega), h1, h2, h3]

end

theorem lastSymbols_eq_ok {offset i : Nat} {last : Bytes} {symbols : List Nat} {pads : Nat}
    (h : lastSymbols offset i last = .ok (symbols, pads)) :
    last = symbols.map symbolByte ++ List.replicate pads pad ∧ ∀ n ∈ symbols, n < 64 := by
  induction last generalizing i symbols with
  | nil =>
    cases h
    exact ⟨rfl, by simp⟩
  | cons b rest ih =>
    rw [lastSymbols] at h
    split at h
    · rename_i hpad
      split at h
      · cases h
      · split at h
        · -- nothing but padding follows
          rename_i hall
          cases h
          have hrest : rest = List.replicate rest.length pad :=
            List.eq_replicate_of_mem fun c hc => of_decide_eq_true (List.all_eq_true.1 hall c hc)
          refine ⟨?_, by simp⟩
          rw [List.map_nil, List.nil_append, Nat.add_comm 1, List.replicate_succ, ← hrest, hpad]
        · cases h
    · obtain ⟨n, hn, h⟩ := bind_eq_ok.1 h
      obtain ⟨⟨ns, padding⟩, hns, h⟩ := bind_eq_ok.1 h
      cases h
      obtain ⟨hlt, hb⟩ := valueAt_eq_ok hn
      obtain ⟨hrest, hmore⟩ := ih hns
      refine ⟨?_, List.forall_mem_cons.2 ⟨hlt, hmore⟩⟩
      rw [hb, List.map_cons, List.cons_append, ← hrest]

theorem decodeLast_eq_ok {offset : Nat} {last bs : Bytes} (hlast : last.length ≤ 4)
    (h : decodeLast offset last = .ok bs) : last = writtenBytes bs := by
  obtain ⟨⟨symbols, pads⟩, hsymbols, h⟩ := bind_eq_ok.1 h
  obtain ⟨heq, hlt⟩ := lastSymbols_eq_ok hsymbols
  dsimp only [pure, Except.pure, bind, Except.bind, throw, throwThe, MonadExceptOf.throw] at h
  by_cases hnil : last = []
  · rw [if_pos hnil] at h
    cases h
    exact hnil
  have hlength : symbols.length + pads = last.length := by
    rw [heq, List.length_append, List.length_map, List.length_replicate]
  rw [if_neg hnil] at h
  split at h
  · cases h
  split at h
  · cases h
  rename_i hshort hpadding
  -- the group is full, so the number of symbols settles that of the pads
  obtain rfl : pads = 4 - symbols.length := by omega
  have hfull : symbols.length ≤ 4 := by omega
  split at h
  · rename_i a b
    split at h
    · cases h
    cases h
    rw [writtenBytes_take_one (hlt a (by simp)) (hlt b (by simp)) (by omega), heq]
    rfl
  · rename_i a b c
    split at h
    · cases h
    cases h
    rw [writtenBytes_take_two (hlt a (by simp)) (hlt b (by simp)) (hlt c (by simp)) (by omega), heq]
    rfl
  · rename_i a b c d
    cases h
    have hwritten := writtenBytes_group (hlt a (by simp)) (hlt b (by simp)) (hlt c (by simp))
      (hlt d (by simp)) []
    rw [List.append_nil] at hwritten
    rw [hwritten, heq]
    rfl
  · -- there are two, three or four symbols
    rename_i htwo hthree hfour
    match symbols, hshort, hfull with
    | [a, b], _, _ => exact absurd rfl (htwo a b)
    | [a, b, c], _, _ => exact absurd rfl (hthree a b c)
    | [a, b, c, d], _, _ => exact absurd rfl (hfour a b c d)
    | [], hshort, _ => simp at hshort
    | [_], hshort, _ => simp at hshort
    | _ :: _ :: _ :: _ :: _ :: _, _, hfull =>
      simp only [List.length_cons] at hfull
      omega

theorem decodeGroups_eq_ok {offset : Nat} {input bs : Bytes} (h : decodeGroups offset input = .ok bs) :
    input = writtenBytes bs := by
  fun_induction decodeGroups offset input generalizing bs with
  | case1 offset a b c d e rest ih =>
    obtain ⟨va, ha, h⟩ := bind_eq_ok.1 h
    obtain ⟨vb, hb, h⟩ := bind_eq_ok.1 h
    obtain ⟨vc, hc, h⟩ := bind_eq_ok.1 h
    obtain ⟨vd, hd, h⟩ := bind_eq_ok.1 h
    obtain ⟨bytes, hbytes, h⟩ := bind_eq_ok.1 h
    cases h
    obtain ⟨hva, rfl⟩ := valueAt_eq_ok ha
    obtain ⟨hvb, rfl⟩ := valueAt_eq_ok hb
    obtain ⟨hvc, rfl⟩ := valueAt_eq_ok hc
    obtain ⟨hvd, rfl⟩ := valueAt_eq_ok hd
    rw [writtenBytes_group hva hvb hvc hvd, ← ih hbytes]
  | case2 offset last hlast =>
    refine decodeLast_eq_ok ?_ h
    match last, hlast with
    | [], _ => simp
    | [_], _ => simp
    | [_, _], _ => simp
    | [_, _, _], _ => simp
    | [_, _, _, _], _ => simp
    | a :: b :: c :: d :: e :: rest, hlast => exact (hlast a b c d e rest rfl).elim

/-- A text is read as some bytes exactly if it is their written form. -/
theorem decodeText_eq_ok_iff {s : String} {bs : Bytes} : decodeText s = .ok bs ↔ s = encode bs := by
  constructor
  · intro h
    rw [decodeText, decode] at h
    split at h
    · cases h
    · have hbytes : Utf8.encode s = Utf8.encode (encode bs) := by
        rw [utf8_encode, decodeGroups_eq_ok h]
      exact Utf8.encode_injective hbytes
  · rintro rfl
    exact decodeText_encode bs

theorem length_lt_writtenBytes {bs : Bytes} (h : bs ≠ []) : bs.length < (writtenBytes bs).length := by
  fun_induction writtenBytes bs with
  | case1 a b c rest ih =>
    cases rest with
    | nil => simp
    | cons d rest =>
      have hrest := ih (List.cons_ne_nil d rest)
      simp only [List.length_cons] at hrest ⊢
      omega
  | case2 a b => simp
  | case3 a => simp
  | case4 => exact absurd rfl h

end Relay.Base64
