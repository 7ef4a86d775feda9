import Relay.Url.Parser
import Relay.Proofs.Address
import Relay.Proofs.Idna

/-!
Authorities read back: what reading makes of an authority has a written form that reads as the same
authority again. Hosts come first, then credentials and the number after the colon.
-/

namespace Relay.Url

/-! ### Hosts -/

namespace Host

theorem name?_eq_toAscii? {name : List Char} (h : ∀ c ∈ name, Idna.IsNameChar c) :
    name? name = Idna.toAscii? name := by
  have hbytes : Percent.decode (Utf8.encode (String.ofList name)) = Utf8.encode (String.ofList name) := by
    -- an escape starts with `%`, which no name holds
    refine Percent.decode_eq_self fun b hb => ?_
    rw [Utf8.encode_ofList, Utf8.encodeChars_ascii fun c hc => (h c hc).1] at hb
    obtain ⟨c, hc, rfl⟩ := List.mem_map.1 hb
    intro heq
    have hascii := (h c hc).1
    have hcode : c.toNat = 37 := by
      rw [← Utf8.toNat_byte (show c.toNat < 256 by omega), heq]
      rfl
    have hpercent : c = '%' := Char.toNat_inj.1 hcode
    have hforbidden := (h c hc).2
    rw [hpercent] at hforbidden
    revert hforbidden
    decide
  rw [name?, hbytes, Utf8.decode?_encode, Option.bind_some, String.toList_ofList]

theorem parse_eq_ofName {cs name : List Char} (h : cs.head? ≠ some '[') (hname : name? cs = some name) :
    parse cs = ofName name := by
  unfold parse
  split
  · simp at h
  · rw [hname]

/-- The hosts that reading can give. -/
def Canonical : Host → Prop
  | .domain name => name.toList ≠ [] ∧ Idna.toAscii? name.toList = some name.toList ∧
      (∀ c ∈ name.toList, Idna.IsNameChar c) ∧ Ipv4.endsInNumber name.toList = false
  | .ipv4 _ => True
  | .ipv6 ps => ps.length = 8

theorem parseBracketed_canonical {cs : List Char} {host : Host} (h : parseBracketed cs = .ok host) :
    host.Canonical := by
  unfold parseBracketed at h
  split at h
  · split at h
    · rename_i ps hps
      rw [← Except.ok.inj h]
      exact Ipv6.length_of_parse? hps
    · simp at h
  · simp at h

theorem ofName_canonical {name : List Char} {host : Host} (h : ofName name = .ok host)
    (hname : Idna.toAscii? name = some name) (hchars : ∀ c ∈ name, Idna.IsNameChar c) :
    host.Canonical := by
  unfold ofName at h
  split at h
  · simp at h
  rename_i hne
  split at h
  · split at h
    · rw [← Except.ok.inj h]
      trivial
    · simp at h
  · rename_i hnumber
    rw [← Except.ok.inj h, Canonical, String.toList_ofList]
    exact ⟨by simpa using hne, hname, hchars, by simpa using hnumber⟩

theorem parse_canonical {cs : List Char} {host : Host} (h : parse cs = .ok host) : host.Canonical := by
  unfold parse at h
  split at h
  · exact parseBracketed_canonical h
  · split at h
    · rename_i name hname
      obtain ⟨decoded, -, hname⟩ := Option.bind_eq_some_iff.1 hname
      have hspec := Idna.toAscii?_spec hname
      exact ofName_canonical h hspec.1 hspec.2
    · simp at h

theorem ipv4_isNameChar (a : UInt32) : ∀ c ∈ (Ipv4.text a).toList, Idna.IsNameChar c := by
  intro c hc
  rcases Ipv4.mem_text hc with rfl | hdigit
  · unfold Idna.IsNameChar
    decide
  · exact Idna.isNameChar_of_isDigit hdigit

theorem toAscii?_ipv4 (a : UInt32) : Idna.toAscii? (Ipv4.text a).toList = some (Ipv4.text a).toList := by
  refine Idna.toAscii?_eq_self (ipv4_isNameChar a) fun l hl => ?_
  rw [Ipv4.splitOn_text] at hl
  obtain ⟨n, -, rfl⟩ := List.mem_map.1 hl
  -- no decimal starts with the `x` of the marker
  by_contra hmarker
  obtain ⟨t, ht⟩ := List.isPrefixOf_iff_prefix.1 (Bool.not_eq_false _ ▸ hmarker)
  have hx : 'x' ∈ Nat.toDigits 10 n := by
    rw [← ht]
    simp [Idna.marker]
  have hdigit := Nat.isDigit_of_mem_toDigits (by decide) (by decide) hx
  revert hdigit
  decide

theorem toList_text_ipv6 (ps : List UInt16) :
    (text (.ipv6 ps)).toList = '[' :: ((Ipv6.text ps).toList ++ [']']) := by
  simp [text, String.toList_append]

theorem Canonical.text_ne_nil {host : Host} (h : host.Canonical) : host.text.toList ≠ [] := by
  cases host with
  | domain name => exact h.1
  | ipv4 a =>
    intro hnil
    have hlabels := Ipv4.splitOn_text a
    rw [show (Ipv4.text a).toList = [] from hnil] at hlabels
    simp [Ipv4.octets] at hlabels
  | ipv6 ps => simp [toList_text_ipv6]

theorem head?_ne_bracket {name : List Char} (h : ∀ c ∈ name, Idna.IsNameChar c) :
    name.head? ≠ some '[' := by
  intro hhead
  exact (h '[' (List.mem_of_head? hhead)).ne (by decide) rfl

theorem Canonical.parse_text {host : Host} (h : host.Canonical) : parse host.text.toList = .ok host := by
  cases host with
  | domain name =>
    obtain ⟨hne, hascii, hchars, hnumber⟩ := h
    rw [text, parse_eq_ofName (head?_ne_bracket hchars) ((name?_eq_toAscii? hchars).trans hascii), ofName,
      if_neg (by simpa using hne), if_neg (by simp [hnumber]), String.ofList_toList]
  | ipv4 a =>
    have hchars := ipv4_isNameChar a
    rw [text, parse_eq_ofName (head?_ne_bracket hchars)
      ((name?_eq_toAscii? hchars).trans (toAscii?_ipv4 a)), ofName,
      if_neg (by simpa [text] using h.text_ne_nil),
      if_pos (Ipv4.endsInNumber_text a), Ipv4.parse?_text]
  | ipv6 ps =>
    -- the last character is the bracket, and the address stands before it
    have hbracketed : parseBracketed ((Ipv6.text ps).toList ++ [']']) = .ok (.ipv6 ps) := by
      unfold parseBracketed
      rw [if_pos (by simp), List.dropLast_concat, Ipv6.parse?_text h]
    rw [toList_text_ipv6]
    exact hbracketed

end Host

/-! ### Characters of an authority -/

def IsAuthorityChar (c : Char) : Prop := 32 < c.toNat ∧ endsAuthority true c = false

theorem nameChar_isAuthorityChar {c : Char} (h : Idna.IsNameChar c) :
    IsAuthorityChar c ∧ c ≠ '@' ∧ c ≠ ':' ∧ c ≠ '[' ∧ c ≠ ']' :=
  forall_ascii (P := fun c => Idna.isForbidden c = false → (32 < c.toNat ∧ endsAuthority true c = false) ∧
    c ≠ '@' ∧ c ≠ ':' ∧ c ≠ '[' ∧ c ≠ ']') (by decide) h.1 h.2

theorem hexDigit_isAuthorityChar {c : Char} (h : Ascii.isHexDigit c = true) :
    IsAuthorityChar c ∧ c ≠ '@' ∧ c ≠ ':' ∧ c ≠ '[' ∧ c ≠ ']' := by
  have hascii : c.toNat < 128 := by
    by_contra hlarge
    have hnone : Ascii.hexValue? c = none := by
      have hgt : ∀ d : Char, d.toNat < 128 → ¬c ≤ d := fun d hd hle => by
        have : c.toNat ≤ d.toNat := hle
        omega
      simp [Ascii.hexValue?, hgt]
    simp [Ascii.isHexDigit, hnone] at h
  exact forall_ascii (P := fun c => Ascii.isHexDigit c = true →
    (32 < c.toNat ∧ endsAuthority true c = false) ∧ c ≠ '@' ∧ c ≠ ':' ∧ c ≠ '[' ∧ c ≠ ']') (by decide)
    hascii h

def IsCredentialChar (c : Char) : Prop := c.toNat < 128 ∧ escapesCredentials c = false

theorem credentialChar_isAuthorityChar {c : Char} (h : IsCredentialChar c) :
    IsAuthorityChar c ∧ c ≠ '@' ∧ c ≠ ':' :=
  forall_ascii (P := fun c => escapesCredentials c = false →
    (32 < c.toNat ∧ endsAuthority true c = false) ∧ c ≠ '@' ∧ c ≠ ':') (by decide) h.1 h.2

/-! ### Splitting -/

theorem splitHost_append {inside : Bool} {cs : List Char} (rest : List Char)
    (h : ∀ c ∈ cs, endsAuthority true c = false ∧ (c = ':' → inside = true) ∧ c ≠ '[' ∧ c ≠ ']') :
    splitHost true inside (cs ++ rest) =
      (cs ++ (splitHost true inside rest).1, (splitHost true inside rest).2) := by
  induction cs with
  | nil => rfl
  | cons c cs ih =>
    obtain ⟨hends, hcolon, hopen, hclose⟩ := h c List.mem_cons_self
    have hstop : ¬((c == ':' && !inside) || endsAuthority true c) = true := by
      simp only [hends, Bool.or_false, Bool.and_eq_true, beq_iff_eq, Bool.not_eq_true', not_and,
        Bool.not_eq_false]
      exact hcolon
    rw [List.cons_append, splitHost, if_neg hstop]
    simp only [beq_iff_eq, if_neg hopen, if_neg hclose, ih fun d hd => h d (List.mem_cons_of_mem c hd),
      List.cons_append]

def EndsHost (t : List Char) : Prop := ∀ c, t.head? = some c → c = ':' ∨ endsAuthority true c = true

theorem splitHost_endsHost {t : List Char} (ht : EndsHost t) : splitHost true false t = ([], t) := by
  cases t with
  | nil => rfl
  | cons c t =>
    rw [splitHost, if_pos]
    rcases ht c rfl with rfl | h
    · rfl
    · simp [h]

theorem Host.Canonical.text_spec {host : Host} (h : host.Canonical) :
    (∀ c ∈ host.text.toList, IsAuthorityChar c ∧ c ≠ '@') ∧
      ∀ t, EndsHost t → splitHost true false (host.text.toList ++ t) = (host.text.toList, t) := by
  -- names and IPv4 addresses share the characters of names
  have hname : ∀ name : List Char, (∀ c ∈ name, Idna.IsNameChar c) →
      (∀ c ∈ name, IsAuthorityChar c ∧ c ≠ '@') ∧
        ∀ t, EndsHost t → splitHost true false (name ++ t) = (name, t) := by
    intro name hchars
    have hspec := fun c hc => nameChar_isAuthorityChar (hchars c hc)
    refine ⟨fun c hc => ⟨(hspec c hc).1, (hspec c hc).2.1⟩, fun t ht => ?_⟩
    rw [splitHost_append t fun c hc => ⟨(hspec c hc).1.2, fun heq => absurd heq (hspec c hc).2.2.1,
      (hspec c hc).2.2.2⟩, splitHost_endsHost ht, List.append_nil]
  cases host with
  | domain name => exact hname name.toList h.2.2.1
  | ipv4 a => exact hname _ (ipv4_isNameChar a)
  | ipv6 ps =>
    rw [Host.toList_text_ipv6]
    refine ⟨fun c hc => ?_, fun t ht => ?_⟩
    · unfold IsAuthorityChar
      rw [List.mem_cons, List.mem_append, List.mem_singleton] at hc
      rcases hc with rfl | hc | rfl
      · decide
      · rcases Ipv6.mem_text hc with rfl | hhex
        · decide
        · exact (hexDigit_isAuthorityChar hhex).imp_right And.left
      · decide
    · have hinside : ∀ c ∈ (Ipv6.text ps).toList, endsAuthority true c = false ∧ (c = ':' → true = true) ∧
          c ≠ '[' ∧ c ≠ ']' := by
        intro c hc
        rcases Ipv6.mem_text hc with rfl | hhex
        · decide
        · have hspec := hexDigit_isAuthorityChar hhex
          exact ⟨hspec.1.2, fun _ => rfl, hspec.2.2.2⟩
      have hclosed : splitHost true true (']' :: t) = ([']'], t) := by
        rw [splitHost, if_neg (by decide)]
        simp [splitHost_endsHost ht]
      rw [List.cons_append, List.append_assoc, splitHost, if_neg (by decide)]
      simp only [beq_self_eq_true, if_true, List.singleton_append, splitHost_append _ hinside, hclosed]

theorem splitLastAt?_append {info host : List Char} (h : '@' ∉ host) :
    splitLastAt? (info ++ '@' :: host) = some (info, host) := by
  have hspan : (host.reverse ++ '@' :: info.reverse).span (· ≠ '@') = (host.reverse, '@' :: info.reverse) := by
    refine span_append (fun c hc => ?_) (by simp)
    have hne : c ≠ '@' := by
      rintro rfl
      exact h (List.mem_reverse.1 hc)
    simpa using hne
  have hreverse : (info ++ '@' :: host).reverse = host.reverse ++ '@' :: info.reverse := by simp
  rw [splitLastAt?, hreverse, hspan]
  simp

theorem splitLastAt?_none {host : List Char} (h : '@' ∉ host) : splitLastAt? host = none := by
  have hspan : (host.reverse ++ []).span (· ≠ '@') = (host.reverse, []) := by
    refine span_append (fun c hc => ?_) (by simp)
    have hne : c ≠ '@' := by
      rintro rfl
      exact h (List.mem_reverse.1 hc)
    simpa using hne
  rw [List.append_nil] at hspan
  rw [splitLastAt?, hspan]

/-! ### Authorities that were read -/

/-- The authorities that reading with a web scheme can give. -/
structure Authority.Canonical (scheme : String) (a : Authority) : Prop where
  host : a.host.Canonical
  username : ∀ c ∈ a.username.toList, IsCredentialChar c
  password : ∀ p ∈ a.password, p.toList ≠ [] ∧ ∀ c ∈ p.toList, IsCredentialChar c
  number : a.portNumber.isSome → a.portNumber ≠ defaultNumber? scheme

theorem allowsEscapes_credentials : Percent.AllowsEscapes escapesCredentials := by
  unfold Percent.AllowsEscapes
  decide

/-- Reading credentials escapes what may not stand in them, and leaves no empty password. -/
theorem readCredentials_spec (cs : List Char) :
    (∀ c ∈ (readCredentials cs).1.toList, IsCredentialChar c) ∧
      ∀ p ∈ (readCredentials cs).2, p.toList ≠ [] ∧ ∀ c ∈ p.toList, IsCredentialChar c := by
  have hescaped : ∀ t, ∀ c ∈ (String.ofList (Percent.encode escapesCredentials t)).toList,
      IsCredentialChar c := by
    intro t c hc
    rw [String.toList_ofList] at hc
    exact Percent.mem_encode allowsEscapes_credentials hc
  unfold readCredentials
  split
  · rename_i name password hsplit
    refine ⟨hescaped _, fun p hp => ?_⟩
    split at hp
    · simp at hp
    · rename_i hne
      obtain rfl := Option.some.inj hp
      refine ⟨?_, hescaped _⟩
      rw [String.toList_ofList]
      exact Percent.encode_ne_nil (by simpa using hne)
  · exact ⟨hescaped _, by simp⟩

theorem readAuthority_canonical {scheme : String} (hweb : (schemeKind scheme).isSpecial = true)
    {cs rest : List Char} {a : Authority} (h : readAuthority scheme cs = .ok (a, rest)) :
    a.Canonical scheme := by
  unfold readAuthority at h
  simp only [hweb] at h
  split at h
  · simp at h
  have hcredentials := readCredentials_spec ((splitCredentials true cs).1.getD [])
  obtain ⟨host, hhost, h⟩ := bind_eq_ok.1 h
  have hcanonical : host.Canonical := by
    rw [readHost, if_pos hweb] at hhost
    split at hhost
    · simp at hhost
    · exact Host.parse_canonical hhost
  split at h
  · simp at h
  obtain ⟨number, -, h⟩ := bind_eq_ok.1 h
  split at h
  · simp at h
  · obtain ⟨rfl, rfl⟩ := Prod.mk.inj (Except.ok.inj h)
    refine ⟨hcanonical, hcredentials.1, hcredentials.2, fun hsome => ?_⟩
    -- the number of the scheme is not kept
    dsimp only at hsome ⊢
    split at hsome
    · simp at hsome
    · rename_i hnumber
      rw [if_neg hnumber]
      exact hnumber

/-! ### Reading the written form -/

def Authority.numberText (a : Authority) : List Char :=
  match a.portNumber with
  | some n => ':' :: Nat.toDigits 10 n.toNat
  | none => []

def Authority.info? (a : Authority) : Option (List Char) :=
  if a.username.isEmpty && a.password.isNone then none
  else
    some (a.username.toList ++ match a.password with
      | some p => ':' :: p.toList
      | none => [])

theorem Authority.toList_credentials (a : Authority) :
    a.credentials.toList = match a.info? with
      | some info => info ++ ['@']
      | none => [] := by
  obtain ⟨username, password, host, number⟩ := a
  unfold Authority.credentials Authority.info?
  cases password with
  | none =>
    by_cases hname : username = ""
    · simp [hname]
    · simp [hname, String.toList_append]
  | some p => simp [String.toList_append]

theorem Authority.toList_text (a : Authority) :
    a.text.toList = a.credentials.toList ++ (a.host.text.toList ++ a.numberText) := by
  rw [Authority.text, String.toList_append, String.toList_append, List.append_assoc]
  congr 2
  unfold Authority.numberText
  cases a.portNumber <;> simp [toString, String.toList_append]

theorem encode_credentials {s : String} (h : ∀ c ∈ s.toList, IsCredentialChar c) :
    String.ofList (Percent.encode escapesCredentials s.toList) = s := by
  rw [Percent.encode_eq_self h, String.ofList_toList]

section

variable {scheme : String} {a : Authority}

theorem Authority.info?_ne_nil (a : Authority) : a.info? ≠ some [] := by
  unfold Authority.info?
  split
  · simp
  · rename_i hany
    -- a password brings its colon along, so only a missing one leaves nothing
    rw [ne_eq, Option.some.injEq, List.append_eq_nil_iff, String.toList_eq_nil_iff]
    rintro ⟨hname, hpassword⟩
    cases hp : a.password with
    | none => simp [hname, hp] at hany
    | some p => simp [hp] at hpassword

theorem Authority.Canonical.readCredentials_info (h : a.Canonical scheme) :
    readCredentials (a.info?.getD []) = (a.username, a.password) := by
  have hname : ∀ c ∈ a.username.toList, decide (c ≠ ':') = true := fun c hc =>
    decide_eq_true (credentialChar_isAuthorityChar (h.username c hc)).2.2
  -- a user name has no colon of its own, so the first colon is the one behind it
  unfold Authority.info?
  split
  · rename_i hany
    simp only [Bool.and_eq_true, String.isEmpty_iff, Option.isNone_iff_eq_none] at hany
    rw [hany.1, hany.2]
    rfl
  · rw [Option.getD_some]
    unfold readCredentials
    cases hp : a.password with
    | none =>
      rw [span_append hname (by simp)]
      simp only [encode_credentials h.username]
    | some p =>
      have hpassword := h.password p hp
      rw [span_append hname (by simp)]
      simp only [encode_credentials h.username, encode_credentials hpassword.2]
      rw [if_neg (by simpa using hpassword.1)]

theorem Authority.Canonical.mem_info (h : a.Canonical scheme) {c : Char} (hc : c ∈ a.info?.getD []) :
    IsAuthorityChar c := by
  unfold Authority.info? at hc
  split at hc
  · simp at hc
  · rw [Option.getD_some, List.mem_append] at hc
    rcases hc with hc | hc
    · exact (credentialChar_isAuthorityChar (h.username c hc)).1
    · cases hp : a.password with
      | none => simp [hp] at hc
      | some p =>
        simp only [hp, List.mem_cons] at hc
        rcases hc with rfl | hc
        · unfold IsAuthorityChar
          decide
        · exact (credentialChar_isAuthorityChar ((h.password p hp).2 c hc)).1

theorem mem_numberText {c : Char} (hc : c ∈ a.numberText) : IsAuthorityChar c ∧ c ≠ '@' := by
  unfold Authority.numberText at hc
  split at hc
  · rcases List.mem_cons.1 hc with rfl | hc
    · unfold IsAuthorityChar
      decide
    · have hdigit := Nat.isDigit_of_mem_toDigits (by decide) (by decide) hc
      exact (nameChar_isAuthorityChar (Idna.isNameChar_of_isDigit hdigit)).imp_right And.left
  · simp at hc

theorem Authority.Canonical.mem_text (h : a.Canonical scheme) {c : Char} (hc : c ∈ a.text.toList) :
    IsAuthorityChar c := by
  rw [Authority.toList_text, Authority.toList_credentials, List.mem_append, List.mem_append] at hc
  rcases hc with hc | hc | hc
  · split at hc
    · rename_i info hinfo
      rw [List.mem_append, List.mem_singleton] at hc
      rcases hc with hc | rfl
      · exact h.mem_info (by simpa [hinfo] using hc)
      · unfold IsAuthorityChar
        decide
    · simp at hc
  · exact (h.host.text_spec.1 c hc).1
  · exact (mem_numberText hc).1

theorem Authority.Canonical.splitCredentials_text (h : a.Canonical scheme) {t : List Char}
    (ht : ∀ c, t.head? = some c → endsAuthority true c = true) :
    splitCredentials true (a.text.toList ++ t) =
      (a.info?, a.host.text.toList ++ a.numberText ++ t) := by
  have hspan : (a.text.toList ++ t).span (!endsAuthority true ·) = (a.text.toList, t) := by
    refine span_append (fun c hc => ?_) fun c hc => ?_
    · simp [(h.mem_text hc).2]
    · simp [ht c hc]
  -- the last `@` is the one behind the credentials
  have hat : '@' ∉ a.host.text.toList ++ a.numberText := by
    intro hmem
    rcases List.mem_append.1 hmem with hmem | hmem
    · exact (h.host.text_spec.1 '@' hmem).2 rfl
    · exact (mem_numberText hmem).2 rfl
  rw [splitCredentials, hspan]
  dsimp only
  rw [Authority.toList_text, Authority.toList_credentials]
  cases a.info? with
  | none => rw [List.nil_append, splitLastAt?_none hat]
  | some info => rw [List.append_assoc info, List.singleton_append, splitLastAt?_append hat]

theorem readOptionalNumber_text (t : List Char) (ht : ∀ c, t.head? = some c → endsAuthority true c = true) :
    readOptionalNumber (a.numberText ++ t) = .ok (a.portNumber, t) := by
  unfold Authority.numberText
  cases a.portNumber with
  | none =>
    unfold readOptionalNumber
    split
    · rename_i digits heq
      have hends := ht ':' (by rw [← List.nil_append t, heq]; rfl)
      exact absurd hends (by decide)
    · rfl
  | some n =>
    have hspan : (Nat.toDigits 10 n.toNat ++ t).span Char.isDigit = (Nat.toDigits 10 n.toNat, t) := by
      refine span_append (fun c hc => Nat.isDigit_of_mem_toDigits (by decide) (by decide) hc) fun c hc => ?_
      have hends := ht c hc
      by_contra hdigit
      have hname := nameChar_isAuthorityChar (Idna.isNameChar_of_isDigit (by simpa using hdigit))
      exact Bool.false_ne_true (hname.1.2.symm.trans hends)
    -- the digits stop where the authority does, and spell a number of sixteen bits
    have hvalue : (Nat.toDigits 10 n.toNat).foldl (fun n c => 10 * n + (c.toNat - 48)) 0 = n.toNat :=
      Nat.ofDigitChars_ten_toDigits
    have hn := n.toNat_lt
    have hrest : t.head?.all (endsAuthority true) = true := by
      cases t with
      | nil => rfl
      | cons c t => exact ht c rfl
    show readNumber (Nat.toDigits 10 n.toNat ++ t) = _
    simp only [readNumber, hspan, hvalue]
    rw [if_neg (by omega), if_pos hrest, if_neg (by simp [Nat.toDigits_ne_nil]), UInt16.ofNat_toNat]

theorem Authority.Canonical.readAuthority_text (h : a.Canonical scheme)
    (hweb : schemeKind scheme = .web) {t : List Char}
    (ht : ∀ c, t.head? = some c → endsAuthority true c = true) :
    readAuthority scheme (a.text.toList ++ t) = .ok (a, t) := by
  -- the host ends at the colon of the number, or where the authority ends
  have hends : EndsHost (a.numberText ++ t) := by
    intro c hc
    unfold Authority.numberText at hc
    split at hc
    · exact .inl (Option.some.inj hc).symm
    · exact .inr (ht c hc)
  have hsplit := h.host.text_spec.2 _ hends
  have hne := h.host.text_ne_nil
  have hparse : readHost .web a.host.text.toList = .ok a.host := by
    rw [readHost, if_pos (by rfl), if_neg (by simpa using hne), h.host.parse_text]
  have hdomain : a.host ≠ .domain "" := by
    intro heq
    rw [heq] at hne
    exact hne rfl
  -- a number that was kept is not the one of the scheme, so it is kept again
  have hnumber : (if a.portNumber = defaultNumber? scheme then none else a.portNumber) = a.portNumber := by
    split
    · rename_i hdefault
      cases hp : a.portNumber with
      | none => rfl
      | some n => exact absurd hdefault (h.number (by simp [hp]))
    · rfl
  simp only [readAuthority, hweb, SchemeKind.isSpecial, h.splitCredentials_text ht, a.info?_ne_nil,
    false_and, if_false, h.readCredentials_info, List.append_assoc, hsplit, hparse, bind, Except.bind,
    hdomain, readOptionalNumber_text t ht, hnumber]

end

end Relay.Url
