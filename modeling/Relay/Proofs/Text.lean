import Mathlib.Data.List.TakeDrop
import Relay.Percent

/-!
Texts and their bytes. The main statement is that bytes are read as a text exactly when they are its
UTF-8 form; the rest says what the encodings do to characters of ASCII and to escapes.
-/

namespace Relay

theorem mapM_eq_some_iff {α β : Type} {f : α → Option β} {xs : List α} {ys : List β} :
    xs.mapM f = some ys ↔ xs.map f = ys.map some := by
  induction xs generalizing ys with
  | nil => cases ys <;> simp
  | cons x xs ih =>
    rw [List.mapM_cons, List.map_cons]
    cases hx : f x with
    | none => cases ys <;> simp
    | some y =>
      cases ys with
      | nil => cases xs.mapM f <;> simp
      | cons z ys =>
        rw [List.map_cons, List.cons.injEq, Option.some.injEq, ← ih]
        cases xs.mapM f <;> simp

theorem bind_eq_ok {ε α β : Type} {x : Except ε α} {f : α → Except ε β} {b : β} :
    (x >>= f) = .ok b ↔ ∃ a, x = .ok a ∧ f a = .ok b := by
  cases x with
  | error e => simp [bind, Except.bind]
  | ok a => simp [bind, Except.bind]

theorem mapM_eq_ok_iff {ε α β : Type} {f : α → Except ε β} {xs : List α} {ys : List β} :
    xs.mapM f = .ok ys ↔ xs.map f = ys.map .ok := by
  induction xs generalizing ys with
  | nil => cases ys <;> simp [pure, Except.pure]
  | cons x xs ih =>
    rw [List.mapM_cons, List.map_cons, bind_eq_ok]
    constructor
    · rintro ⟨y, hx, h⟩
      obtain ⟨zs, hxs, h⟩ := bind_eq_ok.1 h
      obtain rfl := Except.ok.inj h
      rw [List.map_cons, hx, ih.1 hxs]
    · intro h
      cases ys with
      | nil => cases h
      | cons y ys =>
        obtain ⟨hx, hxs⟩ := List.cons.inj h
        exact ⟨y, hx, bind_eq_ok.2 ⟨ys, ih.2 hxs, rfl⟩⟩

theorem mem_of_mem_splitOnP {α : Type} {p : α → Bool} {xs piece : List α} (h : piece ∈ xs.splitOnP p) :
    ∀ x ∈ piece, x ∈ xs ∧ p x = false := by
  induction xs generalizing piece with
  | nil =>
    rw [List.splitOnP_nil, List.mem_singleton] at h
    simp [h]
  | cons a xs ih =>
    rw [List.splitOnP_cons_eq_if_modifyHead] at h
    split at h
    · rcases List.mem_cons.1 h with rfl | h
      · simp
      · exact fun x hx => (ih h x hx).imp_left (List.mem_cons_of_mem a)
    · rename_i ha
      obtain ⟨first, more, hsplit⟩ := List.exists_cons_of_ne_nil (List.splitOnP_ne_nil p xs)
      rw [hsplit, List.modifyHead_cons] at h
      rw [hsplit] at ih
      rcases List.mem_cons.1 h with rfl | h
      · intro x hx
        rcases List.mem_cons.1 hx with rfl | hx
        · exact ⟨List.mem_cons_self, by simpa using ha⟩
        · exact (ih List.mem_cons_self x hx).imp_left (List.mem_cons_of_mem a)
      · exact fun x hx => (ih (List.mem_cons_of_mem _ h) x hx).imp_left (List.mem_cons_of_mem a)

theorem mem_intercalate {α : Type} {sep : List α} {ls : List (List α)} {x : α}
    (h : x ∈ sep.intercalate ls) : x ∈ sep ∨ ∃ l ∈ ls, x ∈ l := by
  induction ls with
  | nil => simp at h
  | cons l ls ih =>
    cases ls with
    | nil =>
      rw [List.intercalate_singleton] at h
      exact .inr ⟨l, List.mem_cons_self, h⟩
    | cons l' ls =>
      rw [List.intercalate_cons_cons, List.mem_append, List.mem_append] at h
      rcases h with (h | h) | h
      · exact .inr ⟨l, List.mem_cons_self, h⟩
      · exact .inl h
      · exact (ih h).imp_right fun ⟨k, hk, hx⟩ => ⟨k, List.mem_cons_of_mem l hk, hx⟩

theorem span_append {α : Type} {p : α → Bool} {xs ys : List α} (hxs : ∀ x ∈ xs, p x = true)
    (hys : ∀ y, ys.head? = some y → p y = false) : (xs ++ ys).span p = (xs, ys) := by
  rw [List.span_eq_takeWhile_dropWhile, List.takeWhile_append_of_pos hxs,
    List.dropWhile_append_of_pos hxs]
  cases ys with
  | nil => simp
  | cons y ys =>
    have hy : ¬p y = true := by simp [hys y rfl]
    rw [List.takeWhile_cons_of_neg hy, List.dropWhile_cons_of_neg hy, List.append_nil]

theorem forall_mem_of_all {α : Type} {P : α → Prop} [DecidablePred P] {xs : List α}
    (h : xs.all (fun x => decide (P x)) = true) : ∀ x ∈ xs, P x := by
  intro x hx
  exact of_decide_eq_true (List.all_eq_true.1 h x hx)

theorem forall_ascii {P : Char → Prop} (h : ∀ n < 128, P (Char.ofNat n)) {c : Char}
    (hc : c.toNat < 128) : P c := by
  have hn := h c.toNat hc
  rwa [Char.ofNat_toNat] at hn

/-! ### Case -/

theorem toLower_eq_self {c : Char} (h : ¬c.toNat < 128) : c.toLower = c := by
  unfold Char.toLower
  rw [dif_neg]
  rintro ⟨-, hle⟩
  rw [UInt32.le_iff_toNat_le] at hle
  change c.toNat ≤ 90 at hle
  omega

theorem Ascii.lower_lower (s : String) : lower (lower s) = lower s := by
  have hchar : ∀ c : Char, c.toLower.toLower = c.toLower := by
    intro c
    by_cases hascii : c.toNat < 128
    · revert hascii
      apply forall_ascii
      decide +kernel
    · rw [toLower_eq_self hascii, toLower_eq_self hascii]
  unfold lower
  rw [String.toList_ofList, List.map_map]
  exact congrArg String.ofList (List.map_congr_left fun c _ => hchar c)

/-! ### UTF-8 -/

namespace Utf8

theorem encode_ofList (cs : List Char) :
    encode (String.ofList cs) = cs.flatMap String.utf8EncodeChar := by
  rw [encode, String.toList_ofList]

theorem encodeChars_ascii {cs : List Char} (h : ∀ c ∈ cs, c.toNat < 128) :
    cs.flatMap String.utf8EncodeChar = cs.map fun c => UInt8.ofNat c.toNat := by
  induction cs with
  | nil => rfl
  | cons c cs ih =>
    have hc : c.val.toNat ≤ 0x7f := Nat.le_of_lt_succ (h c List.mem_cons_self)
    rw [List.flatMap_cons, List.map_cons, ih fun d hd => h d (List.mem_cons_of_mem c hd)]
    unfold String.utf8EncodeChar
    rw [if_pos hc]
    rfl

theorem toNat_valid (c : Char) : c.toNat < 0xD800 ∨ (0xDFFF < c.toNat ∧ c.toNat < 0x110000) :=
  c.valid

theorem toNat_byte {n : Nat} (h : n < 256) : (UInt8.ofNat n).toNat = n := by
  rw [UInt8.toNat_ofNat']
  omega

theorem toNat_tail (v : Nat) : (UInt8.ofNat (v % 64 + 128)).toNat = v % 64 + 128 :=
  toNat_byte (by omega)

theorem isTail_tail (v : Nat) : isTail (UInt8.ofNat (v % 64 + 128)) = true := by
  simp only [isTail, toNat_tail, Bool.and_eq_true, decide_eq_true_eq]
  omega

theorem tailBits_tail (v : Nat) : tailBits (UInt8.ofNat (v % 64 + 128)) = v % 64 := by
  have h := toNat_tail v
  unfold tailBits
  omega

theorem mayFollow_tail (n v : Nat) (hE0 : n = 0xE0 → 32 ≤ v % 64) (hF0 : n = 0xF0 → 16 ≤ v % 64)
    (hED : n = 0xED → v % 64 < 32) (hF4 : n = 0xF4 → v % 64 < 16) :
    mayFollow n (UInt8.ofNat (v % 64 + 128)) = true := by
  simp only [mayFollow, toNat_tail, Bool.and_eq_true, decide_eq_true_eq]
  constructor <;> repeat' split
  all_goals omega

/-! What `step` does at a first byte of each length. -/

theorem step_of_lt (a : UInt8) (rest : Bytes) (h : a.toNat < 0x80) :
    step a rest = (some (Char.ofNat a.toNat), rest) := by
  unfold step
  rw [if_pos h]

theorem step_of_two {a b : UInt8} (rest : Bytes) (h1 : 0xC2 ≤ a.toNat) (h2 : a.toNat < 0xE0)
    (hb : mayFollow a.toNat b = true) :
    step a (b :: rest) = (some (Char.ofNat ((a.toNat - 0xC0) * 64 + tailBits b)), rest) := by
  unfold step
  rw [if_neg (by omega), if_neg (by omega)]
  simp only [hb, Bool.not_true, Bool.false_eq_true, if_false, if_pos h2]

theorem step_of_three {a b c : UInt8} (rest : Bytes) (h1 : 0xE0 ≤ a.toNat) (h2 : a.toNat < 0xF0)
    (hb : mayFollow a.toNat b = true) (hc : isTail c = true) :
    step a (b :: c :: rest) =
      (some (Char.ofNat ((a.toNat - 0xE0) * 4096 + tailBits b * 64 + tailBits c)), rest) := by
  unfold step
  rw [if_neg (by omega), if_neg (by omega)]
  simp only [hb, hc, Bool.not_true, Bool.false_eq_true, if_false, if_pos h2]
  rw [if_neg (by omega)]

theorem step_of_four {a b c d : UInt8} (rest : Bytes) (h1 : 0xF0 ≤ a.toNat) (h2 : a.toNat < 0xF5)
    (hb : mayFollow a.toNat b = true) (hc : isTail c = true) (hd : isTail d = true) :
    step a (b :: c :: d :: rest) = (some (Char.ofNat ((a.toNat - 0xF0) * 262144 +
      tailBits b * 4096 + tailBits c * 64 + tailBits d)), rest) := by
  unfold step
  rw [if_neg (by omega), if_neg (by omega)]
  simp only [hb, hc, hd, Bool.not_true, Bool.false_eq_true, if_false]
  rw [if_neg (by omega), if_neg (by omega)]

/-! The bytes of a character, by its length. -/

theorem step_one (c : Char) (rest : Bytes) (h : c.toNat ≤ 0x7f) :
    step (UInt8.ofNat c.toNat) rest = (some c, rest) := by
  have ha := toNat_byte (show c.toNat < 256 by omega)
  rw [step_of_lt _ _ (by omega), ha, Char.ofNat_toNat]

theorem step_two (c : Char) (rest : Bytes) (h1 : 0x7f < c.toNat) (h2 : c.toNat ≤ 0x7ff) :
    step (UInt8.ofNat (c.toNat / 64 % 32 + 192)) (UInt8.ofNat (c.toNat % 64 + 128) :: rest) =
      (some c, rest) := by
  have ha := toNat_byte (show c.toNat / 64 % 32 + 192 < 256 by omega)
  have hf := mayFollow_tail (c.toNat / 64 % 32 + 192) c.toNat (by omega) (by omega) (by omega)
    (by omega)
  rw [step_of_two rest (by omega) (by omega) (by rw [ha]; exact hf), ha, tailBits_tail]
  rw [show (c.toNat / 64 % 32 + 192 - 192) * 64 + c.toNat % 64 = c.toNat by omega,
    Char.ofNat_toNat]

theorem step_three (c : Char) (rest : Bytes) (h1 : 0x7ff < c.toNat) (h2 : c.toNat ≤ 0xffff) :
    step (UInt8.ofNat (c.toNat / 4096 % 16 + 224)) (UInt8.ofNat (c.toNat / 64 % 64 + 128) ::
      UInt8.ofNat (c.toNat % 64 + 128) :: rest) = (some c, rest) := by
  have hvalid := toNat_valid c
  have ha := toNat_byte (show c.toNat / 4096 % 16 + 224 < 256 by omega)
  -- no short spelling after `E0`, and no surrogate after `ED`
  have hf := mayFollow_tail (c.toNat / 4096 % 16 + 224) (c.toNat / 64) (by omega) (by omega)
    (by omega) (by omega)
  rw [step_of_three rest (by omega) (by omega) (by rw [ha]; exact hf) (isTail_tail _), ha,
    tailBits_tail, tailBits_tail]
  rw [show (c.toNat / 4096 % 16 + 224 - 224) * 4096 + c.toNat / 64 % 64 * 64 + c.toNat % 64 =
    c.toNat by omega, Char.ofNat_toNat]

theorem step_four (c : Char) (rest : Bytes) (h : 0xffff < c.toNat) :
    step (UInt8.ofNat (c.toNat / 262144 % 8 + 240)) (UInt8.ofNat (c.toNat / 4096 % 64 + 128) ::
      UInt8.ofNat (c.toNat / 64 % 64 + 128) :: UInt8.ofNat (c.toNat % 64 + 128) :: rest) =
      (some c, rest) := by
  have hvalid := toNat_valid c
  have ha := toNat_byte (show c.toNat / 262144 % 8 + 240 < 256 by omega)
  -- no short spelling after `F0`, and nothing above the last code point after `F4`
  have hf := mayFollow_tail (c.toNat / 262144 % 8 + 240) (c.toNat / 4096) (by omega) (by omega)
    (by omega) (by omega)
  rw [step_of_four rest (by omega) (by omega) (by rw [ha]; exact hf) (isTail_tail _)
    (isTail_tail _), ha, tailBits_tail, tailBits_tail, tailBits_tail]
  rw [show (c.toNat / 262144 % 8 + 240 - 240) * 262144 + c.toNat / 4096 % 64 * 4096 +
    c.toNat / 64 % 64 * 64 + c.toNat % 64 = c.toNat by omega, Char.ofNat_toNat]

theorem step_encodeChar (c : Char) (rest : Bytes) :
    ∃ b more, String.utf8EncodeChar c ++ rest = b :: more ∧ step b more = (some c, rest) := by
  unfold String.utf8EncodeChar
  simp only [show c.val.toNat = c.toNat from rfl]
  by_cases h1 : c.toNat ≤ 0x7f
  · rw [if_pos h1]
    exact ⟨_, _, rfl, step_one c rest h1⟩
  · by_cases h2 : c.toNat ≤ 0x7ff
    · rw [if_neg h1, if_pos h2]
      exact ⟨_, _, rfl, step_two c rest (by omega) h2⟩
    · by_cases h3 : c.toNat ≤ 0xffff
      · rw [if_neg h1, if_neg h2, if_pos h3]
        exact ⟨_, _, rfl, step_three c rest (by omega) h3⟩
      · rw [if_neg h1, if_neg h2, if_neg h3]
        exact ⟨_, _, rfl, step_four c rest (by omega)⟩

theorem scan_encodeChars (cs : List Char) :
    scan (cs.flatMap String.utf8EncodeChar) = cs.map some := by
  induction cs with
  | nil => rw [List.flatMap_nil, scan, List.map_nil]
  | cons c cs ih =>
    obtain ⟨b, more, hbytes, hstep⟩ := step_encodeChar c (cs.flatMap String.utf8EncodeChar)
    rw [List.flatMap_cons, hbytes, scan, hstep, ih, List.map_cons]

theorem decode?_encode (s : String) : decode? (encode s) = some s := by
  have hchars : (s.toList.map some).mapM id = some s.toList := mapM_eq_some_iff.2 (List.map_id _)
  rw [decode?, encode, scan_encodeChars, hchars, Option.map_some, String.ofList_toList]

/-! Bytes that are read as a character are those it is written with. -/

theorem ofNat_eq_byte {n : Nat} {b : UInt8} (h : n = b.toNat) : UInt8.ofNat n = b := by
  rw [h, UInt8.ofNat_toNat]

theorem toNat_ofNat {n : Nat} (h : n < 0xD800 ∨ (0xDFFF < n ∧ n < 0x110000)) :
    (Char.ofNat n).val.toNat = n := by
  have hvalid : n.isValidChar := h
  unfold Char.ofNat
  rw [dif_pos hvalid]
  rfl

theorem tail_bounds {b : UInt8} (h : isTail b = true) : 0x80 ≤ b.toNat ∧ b.toNat < 0xC0 := by
  simpa [isTail] using h

theorem mayFollow_bounds {n : Nat} {b : UInt8} (h : mayFollow n b = true) :
    0x80 ≤ b.toNat ∧ b.toNat < 0xC0 ∧ (n = 0xE0 → 0xA0 ≤ b.toNat) ∧ (n = 0xF0 → 0x90 ≤ b.toNat) ∧
      (n = 0xED → b.toNat < 0xA0) ∧ (n = 0xF4 → b.toNat < 0x90) := by
  simp only [mayFollow, Bool.and_eq_true, decide_eq_true_eq] at h
  obtain ⟨hlow, hhigh⟩ := h
  split at hlow <;> split at hhigh <;> (try split at hlow) <;> (try split at hhigh) <;> omega

theorem encodeChar_one {a : UInt8} (h : a.toNat < 0x80) :
    String.utf8EncodeChar (Char.ofNat a.toNat) = [a] := by
  have hval := toNat_ofNat (n := a.toNat) (by omega)
  unfold String.utf8EncodeChar
  simp only [hval]
  rw [if_pos (by omega), ofNat_eq_byte rfl]

theorem encodeChar_two {a b : UInt8} (h1 : 0xC2 ≤ a.toNat) (h2 : a.toNat < 0xE0)
    (hb : mayFollow a.toNat b = true) :
    String.utf8EncodeChar (Char.ofNat ((a.toNat - 0xC0) * 64 + tailBits b)) = [a, b] := by
  have hbound := mayFollow_bounds hb
  unfold tailBits
  have hval := toNat_ofNat (n := (a.toNat - 0xC0) * 64 + (b.toNat - 0x80)) (by omega)
  unfold String.utf8EncodeChar
  simp only [hval]
  rw [if_neg (by omega), if_pos (by omega), ofNat_eq_byte (b := a) (by omega),
    ofNat_eq_byte (b := b) (by omega)]

theorem encodeChar_three {a b c : UInt8} (h1 : 0xE0 ≤ a.toNat) (h2 : a.toNat < 0xF0)
    (hb : mayFollow a.toNat b = true) (hc : isTail c = true) :
    String.utf8EncodeChar
      (Char.ofNat ((a.toNat - 0xE0) * 4096 + tailBits b * 64 + tailBits c)) = [a, b, c] := by
  have hbound := mayFollow_bounds hb
  have htail := tail_bounds hc
  unfold tailBits
  -- `E0` rules out the short spellings, and `ED` the surrogates
  have hval := toNat_ofNat (n := (a.toNat - 0xE0) * 4096 + (b.toNat - 0x80) * 64 + (c.toNat - 0x80))
    (by omega)
  unfold String.utf8EncodeChar
  simp only [hval]
  rw [if_neg (by omega), if_neg (by omega), if_pos (by omega), ofNat_eq_byte (b := a) (by omega),
    ofNat_eq_byte (b := b) (by omega), ofNat_eq_byte (b := c) (by omega)]

theorem encodeChar_four {a b c d : UInt8} (h1 : 0xF0 ≤ a.toNat) (h2 : a.toNat < 0xF5)
    (hb : mayFollow a.toNat b = true) (hc : isTail c = true) (hd : isTail d = true) :
    String.utf8EncodeChar (Char.ofNat ((a.toNat - 0xF0) * 262144 + tailBits b * 4096 +
      tailBits c * 64 + tailBits d)) = [a, b, c, d] := by
  have hbound := mayFollow_bounds hb
  have htail := tail_bounds hc
  have hlast := tail_bounds hd
  unfold tailBits
  have hval := toNat_ofNat (n := (a.toNat - 0xF0) * 262144 + (b.toNat - 0x80) * 4096 +
    (c.toNat - 0x80) * 64 + (d.toNat - 0x80)) (by omega)
  unfold String.utf8EncodeChar
  simp only [hval]
  rw [if_neg (by omega), if_neg (by omega), if_neg (by omega), ofNat_eq_byte (b := a) (by omega),
    ofNat_eq_byte (b := b) (by omega), ofNat_eq_byte (b := c) (by omega),
    ofNat_eq_byte (b := d) (by omega)]

theorem encodeChar_of_step {b : UInt8} {rest more : Bytes} {c : Char}
    (h : step b rest = (some c, more)) : String.utf8EncodeChar c ++ more = b :: rest := by
  unfold step at h
  dsimp only at h
  split at h
  · obtain ⟨hc, rfl⟩ := Prod.mk.inj h
    rw [← Option.some.inj hc, encodeChar_one ‹_›, List.singleton_append]
  split at h
  · simp at h
  split at h
  · simp at h
  rename_i b₁ r₁
  split at h
  · simp at h
  rename_i hfollow
  have hfollow : mayFollow b.toNat b₁ = true := by simpa using hfollow
  split at h
  · obtain ⟨hc, rfl⟩ := Prod.mk.inj h
    rw [← Option.some.inj hc, encodeChar_two (by omega) ‹_› hfollow]
    rfl
  split at h
  · simp at h
  rename_i b₂ r₂
  split at h
  · simp at h
  rename_i htail
  have htail : isTail b₂ = true := by simpa using htail
  split at h
  · obtain ⟨hc, rfl⟩ := Prod.mk.inj h
    rw [← Option.some.inj hc, encodeChar_three (by omega) ‹_› hfollow htail]
    rfl
  split at h
  · simp at h
  rename_i b₃ r₃
  split at h
  · simp at h
  rename_i hlast
  have hlast : isTail b₃ = true := by simpa using hlast
  obtain ⟨hc, rfl⟩ := Prod.mk.inj h
  rw [← Option.some.inj hc, encodeChar_four (by omega) (by omega) hfollow htail hlast]
  rfl

theorem encodeChars_of_scan {bs : Bytes} {cs : List Char} (h : scan bs = cs.map some) :
    cs.flatMap String.utf8EncodeChar = bs := by
  fun_induction scan bs generalizing cs with
  | case1 => simp_all
  | case2 b rest ih =>
    cases cs with
    | nil => simp at h
    | cons c cs =>
      rw [List.map_cons, List.cons.injEq] at h
      rw [List.flatMap_cons, ih h.2]
      exact encodeChar_of_step (Prod.ext h.1 rfl)

theorem decode?_eq_some_iff {bs : Bytes} {s : String} : decode? bs = some s ↔ bs = encode s := by
  constructor
  · intro h
    obtain ⟨cs, hcs, rfl⟩ := Option.map_eq_some_iff.1 h
    have hscan : scan bs = cs.map some := by
      rw [← mapM_eq_some_iff.1 hcs, List.map_id]
    rw [encode_ofList, encodeChars_of_scan hscan]
  · rintro rfl
    exact decode?_encode s

theorem encode_injective : Function.Injective encode := by
  intro s t h
  have hs := decode?_encode s
  rw [h, decode?_encode] at hs
  exact (Option.some.inj hs).symm

theorem encode_ne_nil {s : String} (h : s ≠ "") : encode s ≠ [] := by
  intro hnil
  have hempty : encode "" = [] := by simp [encode]
  exact h (encode_injective (hnil.trans hempty.symm))

theorem decode?_eq_none_iff {bs : Bytes} : decode? bs = none ↔ ¬∃ s, bs = encode s := by
  rw [Option.eq_none_iff_forall_ne_some, not_exists]
  exact forall_congr' fun s => not_congr decode?_eq_some_iff

theorem encode_append (s t : String) : encode (s ++ t) = encode s ++ encode t := by
  unfold encode
  rw [String.toList_append, List.flatMap_append]

/-! The order of texts is that of their bytes. -/

theorem byte_cons_lt_iff {m n : Nat} (hm : m < 256) (hn : n < 256) (xs ys : Bytes) :
    UInt8.ofNat m :: xs < UInt8.ofNat n :: ys ↔ m < n ∨ m = n ∧ xs < ys := by
  rw [List.cons_lt_cons_iff, UInt8.lt_iff_toNat_lt, ← UInt8.toNat_inj, toNat_byte hm, toNat_byte hn]

/-- Bytes that are written of the numbers below a bound keep their order, whatever stands behind them. -/
def KeepsOrder (write : Nat → Bytes) (bound : Nat) : Prop :=
  ∀ v w, v < w → w < bound → ∀ xs ys, write v ++ xs < write w ++ ys

theorem keepsOrder_lead (size base : Nat) (h : size + base ≤ 256) :
    KeepsOrder (fun v => [UInt8.ofNat (v % size + base)]) size := by
  intro v w hlt hw xs ys
  have hv : v % size = v := Nat.mod_eq_of_lt (by omega)
  have hw' : w % size = w := Nat.mod_eq_of_lt hw
  show UInt8.ofNat (v % size + base) :: xs < UInt8.ofNat (w % size + base) :: ys
  rw [hv, hw', byte_cons_lt_iff (by omega) (by omega)]
  omega

theorem KeepsOrder.tail {write : Nat → Bytes} {bound : Nat} (h : KeepsOrder write bound) :
    KeepsOrder (fun v => write (v / 64) ++ [UInt8.ofNat (v % 64 + 128)]) (64 * bound) := by
  intro v w hlt hw xs ys
  dsimp only
  rw [List.append_assoc, List.append_assoc]
  by_cases hquot : v / 64 = w / 64
  · rw [hquot]
    apply List.append_left_lt
    rw [List.singleton_append, List.singleton_append, byte_cons_lt_iff (by omega) (by omega)]
    omega
  · exact h (v / 64) (w / 64) (by omega) (by omega) _ _

theorem encodeChar_head (c : Char) : ∃ a more, String.utf8EncodeChar c = a :: more ∧
    (a.toNat < 0x80 ↔ c.toNat ≤ 0x7f) ∧ (a.toNat < 0xE0 ↔ c.toNat ≤ 0x7ff) ∧
    (a.toNat < 0xF0 ↔ c.toNat ≤ 0xffff) := by
  unfold String.utf8EncodeChar
  simp only [show c.val.toNat = c.toNat from rfl]
  split_ifs
  all_goals
    refine ⟨_, _, rfl, ?_⟩
    rw [toNat_byte (by omega)]
    omega

theorem encodeChar_lt {c d : Char} (h : c.toNat < d.toNat) (xs ys : Bytes) :
    String.utf8EncodeChar c ++ xs < String.utf8EncodeChar d ++ ys := by
  have hd := toNat_valid d
  obtain ⟨a, more, ha, ha1, ha2, ha3⟩ := encodeChar_head c
  obtain ⟨b, more', hb, hb1, hb2, hb3⟩ := encodeChar_head d
  by_cases hlt : a.toNat < b.toNat
  · rw [ha, hb, List.cons_append, List.cons_append, List.cons_lt_cons_iff]
    exact .inl (UInt8.lt_iff_toNat_lt.2 hlt)
  -- otherwise both have the same length
  clear ha hb
  unfold String.utf8EncodeChar
  simp only [show c.val.toNat = c.toNat from rfl, show d.val.toNat = d.toNat from rfl]
  by_cases h1 : d.toNat ≤ 0x7f
  · rw [if_pos h1, if_pos (by omega)]
    exact (byte_cons_lt_iff (by omega) (by omega) xs ys).2 (.inl h)
  rw [if_neg h1, if_neg (by omega)]
  by_cases h2 : d.toNat ≤ 0x7ff
  · rw [if_pos h2, if_pos (by omega)]
    exact (keepsOrder_lead 32 192 (by decide)).tail _ _ h (show d.toNat < 64 * 32 by omega) xs ys
  rw [if_neg h2, if_neg (by omega)]
  by_cases h3 : d.toNat ≤ 0xffff
  · rw [if_pos h3, if_pos (by omega)]
    have hthree := (keepsOrder_lead 16 224 (by decide)).tail.tail _ _ h
      (by omega) xs ys
    simpa [Nat.div_div_eq_div_mul] using hthree
  · rw [if_neg h3, if_neg (by omega)]
    have hfour := (keepsOrder_lead 8 240 (by decide)).tail.tail.tail _ _ h
      (by omega) xs ys
    simpa [Nat.div_div_eq_div_mul] using hfour

theorem encodeChars_lt {cs ds : List Char} (h : cs < ds) :
    cs.flatMap String.utf8EncodeChar < ds.flatMap String.utf8EncodeChar := by
  -- up to the first character that differs
  induction h with
  | @nil d ds =>
    obtain ⟨b, more, hb, -⟩ := encodeChar_head d
    rw [List.flatMap_cons, hb]
    exact .nil
  | @rel c cs d ds hlt => exact encodeChar_lt hlt _ _
  | cons _ ih => exact List.append_left_lt ih

theorem encode_lt_encode_iff {s t : String} : encode s < encode t ↔ s < t := by
  constructor
  · intro hbytes
    by_contra hnot
    by_cases hgt : t < s
    · exact List.lt_asymm hbytes (encodeChars_lt hgt)
    · obtain rfl := String.le_antisymm (String.not_lt.1 hgt) (String.not_lt.1 hnot)
      exact List.lt_irrefl _ hbytes
  · exact encodeChars_lt

end Utf8

/-! ### Escapes -/

namespace Percent

theorem encode_eq_self {reserved : Char → Bool} {cs : List Char}
    (h : ∀ c ∈ cs, c.toNat < 128 ∧ reserved c = false) : encode reserved cs = cs := by
  induction cs with
  | nil => rfl
  | cons c cs ih =>
    have hc := h c List.mem_cons_self
    rw [encode, List.flatMap_cons, if_pos (by simp [hc.1, hc.2])]
    exact congrArg (c :: ·) (ih fun d hd => h d (List.mem_cons_of_mem c hd))

def AllowsEscapes (reserved : Char → Bool) : Prop :=
  reserved '%' = false ∧ ∀ n < 16, reserved (Ascii.hexDigit n) = false

theorem hexDigit_ascii : ∀ n < 16, (Ascii.hexDigit n).toNat < 128 := by decide

theorem mem_encode {reserved : Char → Bool} (hr : AllowsEscapes reserved) {cs : List Char} {c : Char}
    (h : c ∈ encode reserved cs) : c.toNat < 128 ∧ reserved c = false := by
  obtain ⟨d, -, hc⟩ := List.mem_flatMap.1 h
  split at hc
  · rename_i hd
    rw [List.mem_singleton] at hc
    subst hc
    exact ⟨hd.1, by simpa using hd.2⟩
  · obtain ⟨b, -, hc⟩ := List.mem_flatMap.1 hc
    have hb := b.toNat_lt
    simp only [escape, List.mem_cons, List.not_mem_nil, or_false] at hc
    rcases hc with rfl | rfl | rfl
    · exact ⟨by decide, hr.1⟩
    · exact ⟨hexDigit_ascii _ (by omega), hr.2 _ (by omega)⟩
    · exact ⟨hexDigit_ascii _ (by omega), hr.2 _ (by omega)⟩

theorem encode_ne_nil {reserved : Char → Bool} {cs : List Char} (h : cs ≠ []) :
    encode reserved cs ≠ [] := by
  obtain ⟨c, cs, rfl⟩ := List.exists_cons_of_ne_nil h
  rw [encode, List.flatMap_cons]
  split
  · simp
  · obtain ⟨b, bs, hb⟩ := List.exists_cons_of_ne_nil (String.utf8EncodeChar_ne_nil (c := c))
    simp [hb, escape]

theorem decode_eq_self {bs : Bytes} (h : ∀ b ∈ bs, b ≠ 37) : decode bs = bs := by
  fun_induction decode bs with
  | case1 a l rest x y hx hy ih => exact absurd rfl (h 37 List.mem_cons_self)
  | case2 a l rest hdigits ih => exact absurd rfl (h 37 List.mem_cons_self)
  | case3 b rest hb ih => rw [ih fun d hd => h d (List.mem_cons_of_mem b hd)]
  | case4 => rfl

end Percent

end Relay
