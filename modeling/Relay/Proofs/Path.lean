import Relay.Proofs.Target

/-!
Paths as they are sent. Every target that is resolved has a path in normal form: it starts with a slash,
all of its characters can stand in a request line, and none of its segments is a dot or two in any
spelling. A path in normal form is resolved to itself.
-/

namespace Relay

/-! ### Dots and how they are written -/

namespace Percent

def dotSpellings : List (List Char) := [['.'], ['%', '2', 'e'], ['%', '2', 'E']]

theorem encode_cons_cases (reserved : Char → Bool) (c : Char) (cs : List Char) :
    encode reserved (c :: cs) = c :: encode reserved cs ∨
      ∃ b more, encode reserved (c :: cs) = escape b ++ more ∧
        (128 ≤ b.toNat ∨ reserved (Char.ofNat b.toNat) = true) := by
  by_cases hkept : c.toNat < 128 ∧ !reserved c
  · left
    rw [encode, List.flatMap_cons, if_pos hkept]
    rfl
  · right
    obtain ⟨b, bs, hbytes, hb⟩ : ∃ b bs, String.utf8EncodeChar c = b :: bs ∧
        (128 ≤ b.toNat ∨ reserved (Char.ofNat b.toNat) = true) := by
      by_cases hascii : c.toNat < 128
      · have hsingle : ∀ d ∈ [c], d.toNat < 128 := by simpa using hascii
        have hbyte := Utf8.encodeChars_ascii hsingle
        rw [List.flatMap_singleton, List.map_singleton] at hbyte
        refine ⟨_, _, hbyte, .inr ?_⟩
        rw [Utf8.toNat_byte (by omega), Char.ofNat_toNat]
        simpa [hascii] using hkept
      · obtain ⟨b, more, hmore, hstep⟩ := Utf8.step_encodeChar c []
        rw [List.append_nil] at hmore
        refine ⟨b, more, hmore, .inl ?_⟩
        -- a byte below 128 would be the character itself
        by_contra hlow
        rw [Utf8.step_of_lt b more (by omega)] at hstep
        have hchar : Char.ofNat b.toNat = c := Option.some.inj (congrArg Prod.fst hstep)
        have hsame := Utf8.toNat_ofNat (n := b.toNat) (.inl (by omega))
        rw [hchar] at hsame
        exact hascii (show c.val.toNat < 128 by omega)
    refine ⟨b, bs.flatMap escape ++ encode reserved cs, ?_, hb⟩
    rw [encode, List.flatMap_cons, if_neg hkept, hbytes, List.flatMap_cons, List.append_assoc]
    rfl

section

variable {reserved : Char → Bool} {cs t : List Char}

theorem encode_keeps {d : Char} (hd : d ≠ '%') (h : encode reserved cs = d :: t) :
    ∃ ds, cs = d :: ds ∧ encode reserved ds = t := by
  cases cs with
  | nil => cases h
  | cons c cs =>
    rcases encode_cons_cases reserved c cs with hkept | ⟨b, more, hescaped, -⟩
    · obtain ⟨rfl, htail⟩ := List.cons.inj (hkept.symm.trans h)
      exact ⟨cs, rfl, htail⟩
    · exact absurd (List.cons.inj (hescaped.symm.trans h)).1.symm hd

theorem escape_ne_dot {b : UInt8} (hb : b.toNat ≠ 46) {e : Char} (he : e = 'e' ∨ e = 'E')
    (more : List Char) : escape b ++ more ≠ '%' :: '2' :: e :: t := by
  have hdigits : ∀ n < 256, Ascii.hexDigit (n / 16) = '2' →
      Ascii.hexDigit (n % 16) = 'e' ∨ Ascii.hexDigit (n % 16) = 'E' → n = 46 := by
    decide +kernel
  intro heq
  obtain ⟨-, htail⟩ := List.cons.inj heq
  obtain ⟨hhigh, htail⟩ := List.cons.inj htail
  obtain ⟨hlow, -⟩ := List.cons.inj htail
  exact hb (hdigits b.toNat b.toNat_lt hhigh (hlow ▸ he))

/-- A dot that is written, in whatever spelling, was written like this before. -/
theorem encode_eq_dot (hdot : reserved '.' = false) {front : List Char} (hfront : front ∈ dotSpellings)
    (h : encode reserved cs = front ++ t) : ∃ tail, cs = front ++ tail ∧ encode reserved tail = t := by
  have hspelled : ∀ e, e = 'e' ∨ e = 'E' → encode reserved cs = ['%', '2', e] ++ t →
      ∃ tail, cs = ['%', '2', e] ++ tail ∧ encode reserved tail = t := by
    intro e he h
    cases cs with
    | nil => cases h
    | cons c cs =>
      rcases encode_cons_cases reserved c cs with hkept | ⟨b, more, hescaped, hb⟩
      · obtain ⟨rfl, htail⟩ := List.cons.inj (hkept.symm.trans h)
        obtain ⟨ds, rfl, hds⟩ := encode_keeps (by decide) htail
        obtain ⟨tail, rfl, hrest⟩ := encode_keeps (by rcases he with rfl | rfl <;> decide) hds
        exact ⟨tail, rfl, hrest⟩
      · -- no escape that is put in stands for a dot
        refine absurd (hescaped.symm.trans h) (escape_ne_dot ?_ he more)
        intro hcode
        rw [hcode] at hb
        rcases hb with hb | hb
        · omega
        · exact absurd (hdot.symm.trans hb) Bool.false_ne_true
  simp only [dotSpellings, List.mem_cons, List.not_mem_nil, or_false] at hfront
  rcases hfront with rfl | rfl | rfl
  · exact encode_keeps (by decide) h
  · exact hspelled 'e' (.inl rfl) h
  · exact hspelled 'E' (.inr rfl) h

end

theorem decode_cons_cases (b : UInt8) (bs : Bytes) :
    decode (b :: bs) = b :: decode bs ∨
      ∃ high low tail x y, b = 37 ∧ bs = high :: low :: tail ∧ hexByte? high = some x ∧
        hexByte? low = some y ∧ decode (b :: bs) = UInt8.ofNat (16 * x + y) :: decode tail := by
  by_cases hescape : ∃ high low tail, b = 37 ∧ bs = high :: low :: tail
  · obtain ⟨high, low, tail, rfl, rfl⟩ := hescape
    rw [decode]
    split
    · rename_i x y hhigh hlow
      exact .inr ⟨high, low, tail, x, y, rfl, rfl, hhigh, hlow, rfl⟩
    · exact .inl rfl
  · left
    rw [decode]
    rintro high low tail rfl rfl
    exact hescape ⟨high, low, tail, rfl, rfl⟩

theorem hexByte?_cases {b : UInt8} {x : Nat} (h : hexByte? b = some x) :
    x < 16 ∧ (x = 2 → b = 50) ∧ (x = 14 → b = 101 ∨ b = 69) := by
  have hbytes : ∀ n < 256, (hexByte? (UInt8.ofNat n)).all fun x =>
      decide (x < 16 ∧ (x = 2 → n = 50) ∧ (x = 14 → n = 101 ∨ n = 69)) := by
    decide +kernel
  have hb := hbytes b.toNat b.toNat_lt
  rw [UInt8.ofNat_toNat, h] at hb
  simpa [← UInt8.toNat_inj] using of_decide_eq_true hb

theorem decode_eq_dot {bs rest : Bytes} (h : decode bs = 46 :: rest) :
    ∃ front ∈ dotSpellings, ∃ tail, bs = front.map (fun c => UInt8.ofNat c.toNat) ++ tail ∧
      decode tail = rest := by
  cases bs with
  | nil => cases h
  | cons b bs =>
    rcases decode_cons_cases b bs with hplain | ⟨high, low, tail, x, y, rfl, rfl, hhigh, hlow, hescape⟩
    · obtain ⟨rfl, htail⟩ := List.cons.inj (hplain.symm.trans h)
      exact ⟨['.'], by decide, bs, rfl, htail⟩
    · obtain ⟨hvalue, htail⟩ := List.cons.inj (hescape.symm.trans h)
      obtain ⟨hx16, hx, -⟩ := hexByte?_cases hhigh
      obtain ⟨hy16, -, hy⟩ := hexByte?_cases hlow
      have hsum : 16 * x + y = 46 := by
        have hbyte := congrArg UInt8.toNat hvalue
        rwa [Utf8.toNat_byte (by omega)] at hbyte
      obtain rfl := hx (by omega)
      rcases hy (by omega) with rfl | rfl
      · exact ⟨['%', '2', 'e'], by decide, tail, rfl, htail⟩
      · exact ⟨['%', '2', 'E'], by decide, tail, rfl, htail⟩

theorem decode_eq_nil {bs : Bytes} (h : decode bs = []) : bs = [] := by
  cases bs with
  | nil => rfl
  | cons b bs =>
    rcases decode_cons_cases b bs with hplain | ⟨_, _, _, _, _, -, -, -, -, hescape⟩
    · cases hplain.symm.trans h
    · cases hescape.symm.trans h

theorem decode_text_eq_dot {cs : List Char} {rest : Bytes} (hcs : ∀ c ∈ cs, c.toNat < 128)
    (h : decode (Utf8.encode (String.ofList cs)) = 46 :: rest) :
    ∃ front ∈ dotSpellings, ∃ tail, cs = front ++ tail ∧
      decode (Utf8.encode (String.ofList tail)) = rest := by
  obtain ⟨front, hfront, bytes, hbytes, hrest⟩ := decode_eq_dot h
  rw [Utf8.encode_ofList, Utf8.encodeChars_ascii hcs] at hbytes
  obtain ⟨first, tail, rfl, hfirst, htail⟩ := List.map_eq_append_iff.1 hbytes
  have hascii : ∀ front ∈ dotSpellings, ∀ c ∈ front, c.toNat < 128 := by simp [dotSpellings]
  -- equal bytes are bytes of one text
  have hsame : String.ofList first = String.ofList front := by
    apply Utf8.encode_injective
    rw [Utf8.encode_ofList, Utf8.encode_ofList, Utf8.encodeChars_ascii (hascii front hfront),
      Utf8.encodeChars_ascii fun c hc => hcs c (List.mem_append_left tail hc), hfirst]
  refine ⟨front, hfront, tail, congrArg (· ++ tail) (String.ofList_injective hsame), ?_⟩
  rw [Utf8.encode_ofList, Utf8.encodeChars_ascii fun c hc => hcs c (List.mem_append_right first hc),
    htail, hrest]

theorem decode_text_eq_nil {cs : List Char} (h : decode (Utf8.encode (String.ofList cs)) = []) :
    cs = [] := by
  by_contra hne
  exact Utf8.encode_ne_nil (fun hempty => hne (String.ofList_eq_empty_iff.1 hempty)) (decode_eq_nil h)

theorem not_mem_encode {reserved : Char → Bool} {cs : List Char} {d : Char} (hpercent : d ≠ '%')
    (hdigit : ∀ n < 16, d ≠ Ascii.hexDigit n) (h : d ∉ cs) : d ∉ encode reserved cs := by
  intro hmem
  obtain ⟨c, hc, hd⟩ := List.mem_flatMap.1 hmem
  split at hd
  · exact h (List.mem_singleton.1 hd ▸ hc)
  · obtain ⟨b, -, hd⟩ := List.mem_flatMap.1 hd
    have hb := b.toNat_lt
    simp only [escape, List.mem_cons, List.not_mem_nil, or_false] at hd
    rcases hd with hd | hd | hd
    · exact hpercent hd
    · exact hdigit _ (by omega) hd
    · exact hdigit _ (by omega) hd

end Percent

/-! ### Segments -/

namespace Url

open Percent (dotSpellings)

theorem toLower_cases {c : Char} :
    (c.toLower = '.' → c = '.') ∧ (c.toLower = '%' → c = '%') ∧ (c.toLower = '2' → c = '2') ∧
      (c.toLower = 'e' → c = 'e' ∨ c = 'E') := by
  have hascii : ∀ {d : Char}, d.toNat < 128 → (d.toLower = '.' → d = '.') ∧ (d.toLower = '%' → d = '%') ∧
      (d.toLower = '2' → d = '2') ∧ (d.toLower = 'e' → d = 'e' ∨ d = 'E') := by
    apply forall_ascii
    decide +kernel
  by_cases hc : c.toNat < 128
  · exact hascii hc
  · have hne : ∀ d : Char, d.toNat < 128 → c.toLower ≠ d := by
      rintro d hd rfl
      rw [toLower_eq_self hc] at hd
      exact hc hd
    exact ⟨fun h => absurd h (hne _ (by decide)), fun h => absurd h (hne _ (by decide)),
      fun h => absurd h (hne _ (by decide)), fun h => absurd h (hne _ (by decide))⟩

theorem dot_of_lower {cs front rest : List Char} (hfront : front ∈ [['.'], ['%', '2', 'e']])
    (h : cs.map Char.toLower = front ++ rest) :
    ∃ spelled ∈ dotSpellings, ∃ tail, cs = spelled ++ tail ∧ tail.map Char.toLower = rest := by
  obtain ⟨spelled, tail, rfl, hspelled, htail⟩ := List.map_eq_append_iff.1 h
  refine ⟨spelled, ?_, tail, rfl, htail⟩
  simp only [List.mem_cons, List.not_mem_nil, or_false] at hfront
  rcases hfront with rfl | rfl
  · obtain ⟨c, rfl, hc⟩ := List.map_eq_singleton_iff.1 hspelled
    rw [toLower_cases.1 hc]
    decide
  · obtain ⟨a, as, rfl, ha, has⟩ := List.map_eq_cons_iff.1 hspelled
    obtain ⟨b, bs, rfl, hb, hbs⟩ := List.map_eq_cons_iff.1 has
    obtain ⟨c, rfl, hc⟩ := List.map_eq_singleton_iff.1 hbs
    rw [toLower_cases.2.1 ha, toLower_cases.2.2.1 hb]
    rcases toLower_cases.2.2.2 hc with rfl | rfl <;> decide

theorem isDot_iff {seg : List Char} : isDot seg = true ↔ seg ∈ dotSpellings := by
  constructor
  · intro h
    have hlower : ∃ front ∈ [['.'], ['%', '2', 'e']], seg.map Char.toLower = front ++ [] := by
      simpa [isDot, ← String.toList_inj] using h
    obtain ⟨front, hfront, hlower⟩ := hlower
    obtain ⟨spelled, hspelled, tail, rfl, htail⟩ := dot_of_lower hfront hlower
    rw [List.map_eq_nil_iff.1 htail, List.append_nil]
    exact hspelled
  · have hall : ∀ seg ∈ dotSpellings, isDot seg = true := by decide +kernel
    exact hall seg

theorem isDoubleDot_iff {seg : List Char} :
    isDoubleDot seg = true ↔ ∃ a ∈ dotSpellings, ∃ b ∈ dotSpellings, seg = a ++ b := by
  constructor
  · intro h
    have hlower : ∃ a ∈ [['.'], ['%', '2', 'e']], ∃ b ∈ [['.'], ['%', '2', 'e']],
        seg.map Char.toLower = a ++ (b ++ []) := by
      simpa [isDoubleDot, ← String.toList_inj, or_assoc, or_left_comm] using h
    obtain ⟨a, ha, b, hb, hlower⟩ := hlower
    obtain ⟨first, hfirst, rest, rfl, hrest⟩ := dot_of_lower ha hlower
    obtain ⟨second, hsecond, tail, rfl, htail⟩ := dot_of_lower hb hrest
    rw [List.map_eq_nil_iff.1 htail, List.append_nil]
    exact ⟨first, hfirst, second, hsecond, rfl⟩
  · have hall : ∀ a ∈ dotSpellings, ∀ b ∈ dotSpellings, isDoubleDot (a ++ b) = true := by decide +kernel
    rintro ⟨a, ha, b, hb, rfl⟩
    exact hall a ha b hb

structure IsNormal (seg : List Char) : Prop where
  ascii : ∀ c ∈ seg, c.toNat < 128 ∧ escapesPath c = false
  whole : ∀ c ∈ seg, c ≠ '/' ∧ c ≠ '\\'
  place : isDot seg = false ∧ isDoubleDot seg = false

theorem isNormal_nil : IsNormal [] := ⟨by simp, by simp, by decide⟩

theorem IsNormal.decode_ne_dots {seg : List Char} (h : IsNormal seg) :
    Percent.decode (Utf8.encode (String.ofList seg)) ≠ [46] ∧
      Percent.decode (Utf8.encode (String.ofList seg)) ≠ [46, 46] := by
  have hascii : ∀ c ∈ seg, c.toNat < 128 := fun c hc => (h.ascii c hc).1
  constructor
  · intro hdot
    obtain ⟨a, ha, tail, rfl, htail⟩ := Percent.decode_text_eq_dot hascii hdot
    obtain rfl := Percent.decode_text_eq_nil htail
    rw [List.append_nil] at h
    exact absurd (isDot_iff.2 ha) (by simp [h.place.1])
  · intro hdots
    obtain ⟨a, ha, more, rfl, hmore⟩ := Percent.decode_text_eq_dot hascii hdots
    obtain ⟨b, hb, tail, rfl, htail⟩ :=
      Percent.decode_text_eq_dot (fun c hc => hascii c (List.mem_append_right a hc)) hmore
    obtain rfl := Percent.decode_text_eq_nil htail
    rw [List.append_nil] at h
    exact absurd (isDoubleDot_iff.2 ⟨a, ha, b, hb, rfl⟩) (by simp [h.place.2])

theorem allowsEscapes_path : Percent.AllowsEscapes escapesPath := by
  unfold Percent.AllowsEscapes
  decide

/-- Escaping makes no segment into a dot or two that is none. -/
theorem isNormal_encode {seg : List Char} (hwhole : ∀ c ∈ seg, c ≠ '/' ∧ c ≠ '\\')
    (hdot : isDot seg = false) (hdots : isDoubleDot seg = false) :
    IsNormal (Percent.encode escapesPath seg) := by
  have hkept : escapesPath '.' = false := by decide
  have hnil : ∀ {cs : List Char}, Percent.encode escapesPath cs = [] → cs = [] := by
    intro cs h
    by_contra hne
    exact Percent.encode_ne_nil hne h
  refine ⟨fun c hc => Percent.mem_encode allowsEscapes_path hc, fun c hc => ⟨?_, ?_⟩, ?_, ?_⟩
  · rintro rfl
    exact Percent.not_mem_encode (by decide) (by decide) (fun hmem => (hwhole _ hmem).1 rfl) hc
  · rintro rfl
    exact Percent.not_mem_encode (by decide) (by decide) (fun hmem => (hwhole _ hmem).2 rfl) hc
  · rw [← Bool.not_eq_true, isDot_iff]
    intro hspelled
    obtain ⟨tail, hseg, htail⟩ := Percent.encode_eq_dot hkept hspelled (List.append_nil _).symm
    rw [hnil htail, List.append_nil] at hseg
    rw [← hseg, ← isDot_iff, hdot] at hspelled
    exact Bool.false_ne_true hspelled
  · rw [← Bool.not_eq_true, isDoubleDot_iff]
    rintro ⟨a, ha, b, hb, hspelled⟩
    obtain ⟨more, hseg, hmore⟩ := Percent.encode_eq_dot hkept ha hspelled
    obtain ⟨tail, rfl, htail⟩ := Percent.encode_eq_dot hkept hb (hmore.trans (List.append_nil b).symm)
    rw [hnil htail, List.append_nil] at hseg
    have hdouble := isDoubleDot_iff.2 ⟨a, ha, b, hb, hseg⟩
    rw [hdots] at hdouble
    exact Bool.false_ne_true hdouble

/-! ### Lists of segments -/

theorem mem_of_mem_shorten {kind : SchemeKind} {path : List (List Char)} {seg : List Char}
    (h : seg ∈ shorten kind path) : seg ∈ path := by
  unfold shorten at h
  split at h
  · split at h
    · exact h
    · exact absurd h List.not_mem_nil
  · exact (List.dropLast_sublist path).subset h

theorem writtenSegment_web (path : List (List Char)) (seg : List Char) :
    writtenSegment .web path seg = Percent.encode escapesPath seg :=
  if_neg fun h => nomatch h.1

theorem resolveSegments_isNormal {path segs : List (List Char)} (hpath : ∀ seg ∈ path, IsNormal seg)
    (hsegs : ∀ seg ∈ segs, ∀ c ∈ seg, c ≠ '/' ∧ c ≠ '\\') :
    ∀ seg ∈ resolveSegments .web path segs, IsNormal seg := by
  have hadd : ∀ {path : List (List Char)} {seg : List Char}, (∀ s ∈ path, IsNormal s) → IsNormal seg →
      ∀ s ∈ path ++ [seg], IsNormal s := by
    intro path seg hpath hseg s hs
    rcases List.mem_append.1 hs with hs | hs
    · exact hpath s hs
    · exact List.mem_singleton.1 hs ▸ hseg
  have hshort : ∀ {path : List (List Char)}, (∀ s ∈ path, IsNormal s) →
      ∀ s ∈ shorten .web path, IsNormal s := fun hpath s hs => hpath s (mem_of_mem_shorten hs)
  fun_induction resolveSegments .web path segs with
  | case1 path => exact hpath
  | case2 path last hdots => exact hadd (hshort hpath) isNormal_nil
  | case3 path last hdots hdot => exact hadd hpath isNormal_nil
  | case4 path last hdots hdot =>
    rw [writtenSegment_web]
    exact hadd hpath (isNormal_encode (hsegs last List.mem_cons_self) (by simpa using hdot)
      (by simpa using hdots))
  | case5 path seg rest hne hdots ih =>
    exact ih (hshort hpath) fun s hs => hsegs s (List.mem_cons_of_mem seg hs)
  | case6 path seg rest hne hdots hdot ih =>
    exact ih hpath fun s hs => hsegs s (List.mem_cons_of_mem seg hs)
  | case7 path seg rest hne hdots hdot ih =>
    refine ih ?_ fun s hs => hsegs s (List.mem_cons_of_mem seg hs)
    rw [writtenSegment_web]
    exact hadd hpath (isNormal_encode (hsegs seg List.mem_cons_self) (by simpa using hdot)
      (by simpa using hdots))

theorem resolveSegments_ne_nil {kind : SchemeKind} {path segs : List (List Char)} (h : segs ≠ []) :
    resolveSegments kind path segs ≠ [] := by
  fun_induction resolveSegments kind path segs with
  | case1 path => exact absurd rfl h
  | case2 | case3 | case4 => simp
  | case5 path seg rest hne hdots ih => exact ih (by rintro rfl; exact hne rfl)
  | case6 path seg rest hne hdots hdot ih => exact ih (by rintro rfl; exact hne rfl)
  | case7 path seg rest hne hdots hdot ih => exact ih (by rintro rfl; exact hne rfl)

theorem resolveSegments_eq_append {path segs : List (List Char)} (hsegs : ∀ seg ∈ segs, IsNormal seg) :
    resolveSegments .web path segs = path ++ segs := by
  have hwritten : ∀ {path : List (List Char)} {seg : List Char}, IsNormal seg →
      writtenSegment .web path seg = seg := fun hseg =>
    (writtenSegment_web _ _).trans (Percent.encode_eq_self hseg.ascii)
  fun_induction resolveSegments .web path segs with
  | case1 path => rw [List.append_nil]
  | case2 path last hdots =>
    exact absurd hdots (by simp [(hsegs last List.mem_cons_self).place.2])
  | case3 path last hdots hdot =>
    exact absurd hdot (by simp [(hsegs last List.mem_cons_self).place.1])
  | case4 path last hdots hdot => rw [hwritten (hsegs last List.mem_cons_self)]
  | case5 path seg rest hne hdots =>
    exact absurd hdots (by simp [(hsegs seg List.mem_cons_self).place.2])
  | case6 path seg rest hne hdots hdot =>
    exact absurd hdot (by simp [(hsegs seg List.mem_cons_self).place.1])
  | case7 path seg rest hne hdots hdot ih =>
    rw [ih fun s hs => hsegs s (List.mem_cons_of_mem seg hs), hwritten (hsegs seg List.mem_cons_self),
      List.append_assoc, List.singleton_append]

/-! ### Whole paths -/

def Path.IsNormal (p : Path) : Prop :=
  ∃ segs, segs ≠ [] ∧ (∀ seg ∈ segs, Url.IsNormal seg) ∧ p = .segments (segs.map String.ofList)

theorem readPath_isNormal (cs : List Char) : (readPath .web cs).IsNormal := by
  have hread : ∀ cs : List Char, (readSegments .web [] cs).IsNormal := by
    intro cs
    refine ⟨resolveSegments .web [] (splitSegments true cs), ?_, ?_, rfl⟩
    · exact resolveSegments_ne_nil (List.splitOnP_ne_nil _ cs)
    · refine resolveSegments_isNormal (by simp) fun seg hseg c hc => ?_
      simpa using (mem_of_mem_splitOnP hseg c hc).2
  unfold readPath
  split
  · exact ⟨[[]], by simp, by simp [isNormal_nil], rfl⟩
  · split <;> exact hread _

theorem toList_text_segments (segs : List (List Char)) :
    (Path.segments (segs.map String.ofList)).text.toList = segs.flatMap ('/' :: ·) := by
  unfold Path.text
  rw [String.toList_join, List.map_map, List.flatMap_map]
  congr 1
  funext seg
  simp

theorem splitOnP_segments {p : Char → Bool} (hslash : p '/' = true) {first : List Char}
    {segs : List (List Char)} (hfirst : ∀ c ∈ first, p c = false)
    (hsegs : ∀ seg ∈ segs, ∀ c ∈ seg, p c = false) :
    (first ++ segs.flatMap ('/' :: ·)).splitOnP p = first :: segs := by
  induction segs generalizing first with
  | nil =>
    rw [List.flatMap_nil, List.append_nil]
    exact List.splitOnP_eq_singleton hfirst
  | cons seg segs ih =>
    rw [List.flatMap_cons, List.cons_append, List.splitOnP_append_cons_of_forall_mem hfirst _ hslash,
      ih (hsegs seg List.mem_cons_self) fun s hs => hsegs s (List.mem_cons_of_mem seg hs)]

theorem cleanTail_eq_self {cs : List Char} (h : ∀ c ∈ cs, 0x21 ≤ c.toNat) : cleanTail cs = cs := by
  have hkept : cs.filter (!isIgnored ·) = cs := by
    refine List.filter_eq_self.2 fun c hc => ?_
    rw [isIgnored_eq_false (h c hc)]
    rfl
  cases hlast : cs.getLast? with
  | none =>
    rw [List.getLast?_eq_none_iff.1 hlast]
    rfl
  | some c =>
    have hc := isTrimmed_eq_false (h c (List.mem_of_getLast? hlast))
    have htrim := reverse_dropWhile_append hlast hc []
    rw [List.append_nil, List.reverse_nil, List.dropWhile_nil, List.reverse_nil, List.append_nil] at htrim
    rw [cleanTail, trimEnd, htrim, hkept]

theorem cut_eq_self {cs : List Char} (h : ∀ c ∈ cs, c ≠ '?' ∧ c ≠ '#') : cut cs = (cs, none, none) := by
  have hspan : ∀ d : Char, (∀ c ∈ cs, c ≠ d) → cs.span (· ≠ d) = (cs, []) := by
    intro d hd
    have hcs : ∀ c ∈ cs, decide (c ≠ d) = true := by simpa using hd
    have hend : ∀ c : Char, [].head? = some c → decide (c ≠ d) = false := fun c h => nomatch h
    have hall := span_append hcs hend
    rwa [List.append_nil] at hall
  unfold cut
  simp only [hspan '#' fun c hc => (h c hc).2, hspan '?' fun c hc => (h c hc).1]

namespace Path.IsNormal

variable {p : Path}

theorem head?_text (h : p.IsNormal) : p.text.toList.head? = some '/' := by
  obtain ⟨segs, hne, -, rfl⟩ := h
  obtain ⟨seg, segs, rfl⟩ := List.exists_cons_of_ne_nil hne
  rw [toList_text_segments]
  rfl

theorem mem_text (h : p.IsNormal) {c : Char} (hc : c ∈ p.text.toList) :
    0x21 ≤ c.toNat ∧ c.toNat ≤ 0x7e ∧ c ≠ '?' ∧ c ≠ '#' := by
  have hascii : ∀ {c : Char}, c.toNat < 128 → escapesPath c = false →
      0x21 ≤ c.toNat ∧ c.toNat ≤ 0x7e ∧ c ≠ '?' ∧ c ≠ '#' := by
    apply forall_ascii
    decide +kernel
  obtain ⟨segs, -, hsegs, rfl⟩ := h
  rw [toList_text_segments] at hc
  obtain ⟨seg, hseg, hc⟩ := List.mem_flatMap.1 hc
  rcases List.mem_cons.1 hc with rfl | hc
  · decide
  · exact hascii ((hsegs seg hseg).ascii c hc).1 ((hsegs seg hseg).ascii c hc).2

theorem splitOn_text (h : p.IsNormal) {seg : List Char} (hseg : seg ∈ p.text.toList.splitOn '/') :
    Url.IsNormal seg := by
  obtain ⟨segs, -, hsegs, rfl⟩ := h
  have hsplit : (Path.segments (segs.map String.ofList)).text.toList.splitOn '/' = [] :: segs := by
    have hnil : ∀ c ∈ ([] : List Char), (c == '/') = false := by simp
    rw [toList_text_segments]
    exact splitOnP_segments rfl hnil fun seg hseg c hc => by simpa using ((hsegs seg hseg).whole c hc).1
  rw [hsplit] at hseg
  rcases List.mem_cons.1 hseg with rfl | hseg
  · exact isNormal_nil
  · exact hsegs seg hseg

theorem readPath_text (h : p.IsNormal) : readPath .web p.text.toList = p := by
  obtain ⟨segs, hne, hsegs, rfl⟩ := h
  obtain ⟨first, segs, rfl⟩ := List.exists_cons_of_ne_nil hne
  have hsplit : splitSegments true (first ++ segs.flatMap ('/' :: ·)) = first :: segs := by
    have hkept : ∀ seg ∈ first :: segs, ∀ c ∈ seg, (c == '/' || (true && c == '\\')) = false :=
      fun seg hseg c hc => by simpa using (hsegs seg hseg).whole c hc
    exact splitOnP_segments rfl (hkept first List.mem_cons_self) fun seg hseg =>
      hkept seg (List.mem_cons_of_mem first hseg)
  rw [toList_text_segments, List.flatMap_cons, List.cons_append]
  show readSegments .web [] (first ++ segs.flatMap ('/' :: ·)) = _
  rw [readSegments, show SchemeKind.web.isSpecial = true from rfl, hsplit,
    resolveSegments_eq_append hsegs]
  rfl

theorem withTail_text (h : p.IsNormal) {scheme : String} (hscheme : schemeKind scheme = .web)
    (authority : Option Authority) :
    withTail scheme authority (cleanTail p.text.toList) = { scheme, authority, path := p } := by
  have hclean := cleanTail_eq_self fun c hc => (h.mem_text hc).1
  have hcut := cut_eq_self fun c hc => (h.mem_text hc).2.2
  rw [hclean]
  unfold withTail
  simp only [hcut, hscheme, h.readPath_text]
  rfl

end Path.IsNormal

theorem setQuery_path {u : Url} (h : u.path.IsNormal) (query : Option String) :
    (u.setQuery query).path = u.path := by
  obtain ⟨segs, -, -, hpath⟩ := h
  simp only [setQuery, hpath]

end Url

/-! ### Targets -/

theorem Query.IsWritten.printable {c : Char} (h : IsWritten c) : 0x21 ≤ c.toNat ∧ c.toNat ≤ 0x7e := by
  have hascii : ∀ {c : Char}, c.toNat < 128 → Url.escapesQuery true c = false →
      0x21 ≤ c.toNat ∧ c.toNat ≤ 0x7e := by
    apply forall_ascii
    decide +kernel
  exact hascii h.1 h.2.1

namespace Target

theorem resolve_isNormal {t : Target} {a : Url.Authority} (h : t.origin.IsOrigin a) {path : String}
    {query : TextMap} {u : Url} (hu : t.resolve path query = .ok u) : u.path.IsNormal := by
  rw [resolve_eq h] at hu
  split at hu
  · have hread : (Url.withTail t.origin.scheme (some a)
        (Url.cleanTail (t.logicalPath path).toList)).path.IsNormal := by
      unfold Url.withTail
      simp only [Url.schemeKind_web h.scheme]
      exact Url.readPath_isNormal _
    rw [← Except.ok.inj hu, Url.setQuery_path hread]
    exact hread
  · cases hu

theorem resolve_text {t : Target} {a : Url.Authority} (h : t.origin.IsOrigin a) (hmounts : t.mounts = [])
    {p : Url.Path} (hp : p.IsNormal) (query : TextMap) :
    t.resolve p.text query = .ok
      { scheme := t.origin.scheme, authority := some a, path := p, query := Query.serialize query } := by
  have hlogical : t.logicalPath p.text = p.text := by
    rw [logicalPath, hmounts]
    rfl
  have hweb := Url.schemeKind_web h.scheme
  rw [resolve_eq h, hlogical, if_pos (.inr hp.head?_text), hp.withTail_text hweb]
  let bare : Url := { scheme := t.origin.scheme, authority := some a, path := p }
  have hquery : (bare.setQuery (Query.serialize query)).query = Query.serialize query :=
    Url.setQuery_serialize (Url.isSpecial_web h.scheme) query
  show Except.ok { bare with
    path := (bare.setQuery (Query.serialize query)).path
    query := (bare.setQuery (Query.serialize query)).query } = _
  rw [hquery, Url.setQuery_path hp]

/-- With an accepted configuration the path and the query of every target can stand in a request line,
no segment reads as a dot or two, and the path is resolved to itself. -/
theorem resolve_normal {c : Config} (hc : c.validate = .ok c) :
    ∃ t, ofText c.origin.origin c.origin.mountPrefixes = .ok t ∧
      ∀ path query u, t.resolve path query = .ok u →
        u.path.text.toList.head? = some '/' ∧
        (∀ d ∈ u.path.text.toList, 0x21 ≤ d.toNat ∧ d.toNat ≤ 0x7e ∧ d ≠ '?' ∧ d ≠ '#') ∧
        (∀ q, u.query = some q → ∀ d ∈ q.toList, 0x21 ≤ d.toNat ∧ d.toNat ≤ 0x7e) ∧
        (∀ seg ∈ u.path.text.toList.splitOn '/',
          Percent.decode (Utf8.encode (String.ofList seg)) ≠ [46] ∧
          Percent.decode (Utf8.encode (String.ofList seg)) ≠ [46, 46]) ∧
        { t with mounts := [] }.resolve u.path.text query = .ok { u with fragment := none } := by
  obtain ⟨t, a, htext, -, -, horigin⟩ := ofText_of_validate hc
  refine ⟨t, htext, fun path query u hu => ?_⟩
  have hnormal := resolve_isNormal horigin hu
  obtain ⟨hscheme, hauthority, hquery⟩ := resolve_ok horigin hu
  refine ⟨hnormal.head?_text, fun d hd => hnormal.mem_text hd, ?_, ?_, ?_⟩
  · intro q hq d hd
    exact (Query.serialize_isWritten (hquery.symm.trans hq) d hd).printable
  · exact fun seg hseg => (hnormal.splitOn_text hseg).decode_ne_dots
  · rw [resolve_text (t := { t with mounts := [] }) horigin rfl hnormal, ← hscheme, ← hauthority, ← hquery]

/-- Dots in every spelling, a tab, a line break, a NUL, a blank, bars and a letter outside ASCII, then a
query and a fragment. -/
theorem resolve_normal_spelled :
    let c : Config := { origin := { origin := "http://origin.example:8080" } }
    let path := "/api/a/%2E%2e/b \r\nX: c/\t./é\\..\\\x00%2e|?x#y"
    let query := TextMap.ofList [("a b", "\r\n")]
    c.validate = .ok c ∧
      ∃ t u, ofText c.origin.origin c.origin.mountPrefixes = .ok t ∧ t.resolve path query = .ok u ∧
        u.path.text = "/b%20X:%20c/%00%2e|" ∧ u.query = some "a+b=%0D%0A" ∧
        { t with mounts := [] }.resolve u.path.text query = .ok { u with fragment := none } := by
  intro c path query
  have hvalid : c.validate = .ok c := by decide +kernel
  obtain ⟨t, htext, hall⟩ := resolve_normal hvalid
  have hread : ofText c.origin.origin c.origin.mountPrefixes = .ok
      ⟨⟨"http", some { host := .domain "origin.example", portNumber := some 8080 }, .segments [""], none,
        none⟩, c.origin.mountPrefixes⟩ := by
    decide +kernel
  obtain rfl := Except.ok.inj (hread.symm.trans htext)
  have hu : resolve ⟨⟨"http", some { host := .domain "origin.example", portNumber := some 8080 },
      .segments [""], none, none⟩, c.origin.mountPrefixes⟩ path query = .ok
        ⟨"http", some { host := .domain "origin.example", portNumber := some 8080 },
          .segments ["b%20X:%20c", "%00%2e|"], some "a+b=%0D%0A", some "y"⟩ := by
    decide +kernel
  exact ⟨hvalid, _, _, htext, hu, by decide +kernel, rfl, (hall path query _ hu).2.2.2.2⟩

end Target

end Relay
