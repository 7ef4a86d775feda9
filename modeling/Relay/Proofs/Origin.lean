import Relay.Config.Rules
import Relay.Url.Origin
import Relay.Proofs.Authority

/-!
Extending an origin. The text of an accepted origin ends with its authority and a slash, so whatever
is written behind the authority is read as path, query and fragment, and the authority stays.
-/

namespace Relay.Url

/-- A URL of a web server and nothing on it. -/
structure IsOrigin (u : Url) (a : Authority) : Prop where
  scheme : u.scheme = "http" ∨ u.scheme = "https"
  authority : u.authority = some a
  canonical : a.Canonical u.scheme
  path : u.path.text = "/"
  query : u.query = none
  fragment : u.fragment = none

theorem schemeKind_web {scheme : String} (h : scheme = "http" ∨ scheme = "https") :
    schemeKind scheme = .web := by
  rcases h with rfl | rfl <;> decide

theorem isSpecial_web {scheme : String} (h : scheme = "http" ∨ scheme = "https") :
    (schemeKind scheme).isSpecial = true := by
  rw [schemeKind_web h]
  rfl

/-! ### What reading gives -/

theorem parseFile_scheme {cs : List Char} {u : Url} (h : parseFile cs = .ok u) : u.scheme = "file" := by
  unfold parseFile at h
  split at h
  · split at h
    · obtain ⟨r, -, h⟩ := bind_eq_ok.1 h
      dsimp only at h
      split at h
      · split at h <;> rw [← Except.ok.inj h] <;> rfl
      · rw [← Except.ok.inj h]
        rfl
    · rw [← Except.ok.inj h]
      rfl
  · rw [← Except.ok.inj h]
    rfl

/-- A URL with a web scheme was read by cutting off an authority first. -/
theorem parse_web {s : String} {u : Url} (h : parse s = .ok u)
    (hscheme : u.scheme = "http" ∨ u.scheme = "https") :
    ∃ cs a rest, readAuthority u.scheme cs = .ok (a, rest) ∧ u = withTail u.scheme (some a) rest := by
  unfold parse at h
  split at h
  · rename_i scheme rest hsplit
    unfold parseAfterScheme at h
    split at h
    · -- a file URL is never read under a web scheme
      have hfile := parseFile_scheme h
      rw [hfile] at hscheme
      exact absurd hscheme (by decide)
    · rename_i hkind
      obtain ⟨r, hread, h⟩ := bind_eq_ok.1 h
      rw [← Except.ok.inj h]
      exact ⟨_, r.1, r.2, hread, rfl⟩
    · -- any other scheme is kept, and it is no web scheme
      rename_i hkind
      have hsame : u.scheme = scheme := by
        split at h
        · obtain ⟨r, -, h⟩ := bind_eq_ok.1 h
          rw [← Except.ok.inj h]
          rfl
        · rw [← Except.ok.inj h]
          rfl
        · rw [← Except.ok.inj h]
      rw [hsame] at hscheme
      rw [schemeKind_web hscheme] at hkind
      exact absurd hkind (by decide)
  · simp at h

theorem parse_isOrigin {text : String} (h : Config.originFault? text = none) :
    ∃ u a, parse text = .ok u ∧ u.IsOrigin a := by
  unfold Config.originFault? at h
  split at h
  · simp at h
  · rename_i u hparse
    split at h
    · simp at h
    rename_i hscheme
    have hweb : u.scheme = "http" ∨ u.scheme = "https" := by
      by_contra hneither
      exact hscheme (not_or.1 hneither)
    split at h
    · simp at h
    split at h
    · simp at h
    rename_i hpath
    split at h
    · simp at h
    rename_i htail
    -- the checks settle the scheme and the tail; that the authority is canonical comes from reading
    obtain ⟨cs, a, rest, hread, heq⟩ := parse_web hparse hweb
    refine ⟨u, a, hparse, hweb, ?_, readAuthority_canonical (isSpecial_web hweb) hread, ?_, ?_, ?_⟩
    · rw [heq]
      rfl
    · by_contra hne
      exact hpath (.inl hne)
    · cases hq : u.query with
      | none => rfl
      | some q => exact absurd (.inl (by simp [hq])) htail
    · cases hf : u.fragment with
      | none => rfl
      | some f => exact absurd (.inr (by simp [hf])) htail

/-! ### The text of an origin -/

theorem reverse_dropWhile_append {p : Char → Bool} {front : List Char} {c : Char}
    (hlast : front.getLast? = some c) (hc : p c = false) (tail : List Char) :
    ((front ++ tail).reverse.dropWhile p).reverse = front ++ (tail.reverse.dropWhile p).reverse := by
  have hfront : front.reverse.dropWhile p = front.reverse := by
    rw [← List.head?_reverse] at hlast
    cases hr : front.reverse with
    | nil => rfl
    | cons d rest =>
      rw [hr, List.head?_cons, Option.some.injEq] at hlast
      rw [List.dropWhile_cons_of_neg (by simp [hlast, hc])]
  rw [List.reverse_append, List.dropWhile_append]
  split
  · rename_i hempty
    rw [hfront, List.reverse_reverse, List.isEmpty_iff.1 hempty, List.reverse_nil, List.append_nil]
  · rw [List.reverse_append, List.reverse_reverse]

section

variable {u : Url} {a : Authority}

def frontText (u : Url) (a : Authority) : List Char := u.scheme.toList ++ ':' :: '/' :: '/' :: a.text.toList

theorem IsOrigin.toList_text (h : u.IsOrigin a) : u.text.toList = u.frontText a ++ ['/'] := by
  simp [text, front, h.authority, h.path, h.query, h.fragment, String.toList_append, frontText]

theorem Authority.Canonical.text_ne_nil {scheme : String} (h : a.Canonical scheme) :
    a.text.toList ≠ [] := by
  rw [Authority.toList_text]
  simp [h.host.text_ne_nil]

theorem IsOrigin.getLast?_frontText (h : u.IsOrigin a) :
    ∃ c, (u.frontText a).getLast? = some c ∧ IsAuthorityChar c := by
  have hne := h.canonical.text_ne_nil
  refine ⟨a.text.toList.getLast hne, ?_, h.canonical.mem_text (List.getLast_mem hne)⟩
  rw [frontText, List.getLast?_append_of_ne_nil _ (by simp)]
  rw [show ':' :: '/' :: '/' :: a.text.toList = [':', '/', '/'] ++ a.text.toList from rfl,
    List.getLast?_append_of_ne_nil _ hne, List.getLast?_eq_getLast_of_ne_nil hne]

theorem IsOrigin.trimmedText (h : u.IsOrigin a) : u.trimmedText = u.frontText a := by
  obtain ⟨c, hlast, hc⟩ := h.getLast?_frontText
  have hne : c ≠ '/' := by
    rintro rfl
    exact absurd hc.2 (by decide)
  have hslash : (c == '/') = false := by simp [hne]
  rw [Url.trimmedText, h.toList_text, reverse_dropWhile_append hlast hslash]
  simp

theorem IsOrigin.mem_frontText (h : u.IsOrigin a) : ∀ c ∈ u.frontText a, 32 < c.toNat := by
  intro c hc
  rw [frontText, List.mem_append] at hc
  rcases hc with hc | hc
  · have hhttp : ∀ d ∈ "http".toList, 32 < d.toNat := forall_mem_of_all (by decide)
    have hhttps : ∀ d ∈ "https".toList, 32 < d.toNat := forall_mem_of_all (by decide)
    rcases h.scheme with hs | hs
    · exact hhttp c (hs ▸ hc)
    · exact hhttps c (hs ▸ hc)
  · rcases List.mem_cons.1 hc with rfl | hc
    · decide
    rcases List.mem_cons.1 hc with rfl | hc
    · decide
    rcases List.mem_cons.1 hc with rfl | hc
    · decide
    · exact (h.canonical.mem_text hc).1

theorem isTrimmed_eq_false {c : Char} (h : 32 < c.toNat) : isTrimmed c = false := by
  simp only [isTrimmed, decide_eq_false_iff_not]
  omega

theorem isIgnored_eq_false {c : Char} (h : 32 < c.toNat) : isIgnored c = false := by
  simp only [isIgnored, Bool.or_eq_false_iff, beq_eq_false_iff_ne]
  omega

def cleanTail (cs : List Char) : List Char := (trimEnd cs).filter (!isIgnored ·)

theorem IsOrigin.clean_append (h : u.IsOrigin a) (suffix : List Char) :
    clean (u.frontText a ++ suffix) = u.frontText a ++ cleanTail suffix := by
  have hchars := h.mem_frontText
  have hkeep : ∀ c ∈ u.frontText a, isTrimmed c = false := fun c hc => isTrimmed_eq_false (hchars c hc)
  -- the scheme stops the cut at the head, the authority the one at the end
  have hhead : (u.frontText a ++ suffix).dropWhile isTrimmed = u.frontText a ++ suffix := by
    cases hfront : u.frontText a with
    | nil => simp [frontText] at hfront
    | cons c rest =>
      rw [List.cons_append, List.dropWhile_cons_of_neg]
      simp [hkeep c (hfront ▸ List.mem_cons_self)]
  have hfilter : (u.frontText a).filter (!isIgnored ·) = u.frontText a := by
    refine List.filter_eq_self.2 fun c hc => ?_
    rw [isIgnored_eq_false (hchars c hc)]
    rfl
  obtain ⟨c, hlast, hc⟩ := h.getLast?_frontText
  rw [clean, hhead, trimEnd, reverse_dropWhile_append hlast (hkeep c (List.mem_of_getLast? hlast)),
    List.filter_append, hfilter]
  rfl

/-! ### Reading an extended origin -/

theorem IsOrigin.splitScheme? (h : u.IsOrigin a) (tail : List Char) :
    Url.splitScheme? (u.frontText a ++ tail) =
      some (u.scheme, '/' :: '/' :: (a.text.toList ++ tail)) := by
  have hspan : ∀ name : List Char, (∀ c ∈ name, isSchemeChar c = true) → ∀ rest : List Char,
      (name ++ ':' :: rest).span isSchemeChar = (name, ':' :: rest) := fun name hname rest =>
    span_append hname (by rintro c ⟨⟩; decide)
  unfold Url.splitScheme?
  rw [frontText, List.append_assoc, List.cons_append, List.cons_append, List.cons_append]
  rcases h.scheme with hs | hs
  · rw [hs, hspan "http".toList (forall_mem_of_all (by decide))]
    rfl
  · rw [hs, hspan "https".toList (forall_mem_of_all (by decide))]
    rfl

theorem cleanTail_head {cs : List Char} (h : cs = [] ∨ cs.head? = some '/') :
    ∀ c, (cleanTail cs).head? = some c → c = '/' := by
  intro c hc
  cases cs with
  | nil => simp [cleanTail, trimEnd] at hc
  | cons d rest =>
    obtain rfl : d = '/' := by simpa using h
    have htrim : trimEnd ('/' :: rest) = '/' :: trimEnd rest :=
      @reverse_dropWhile_append isTrimmed ['/'] '/' rfl (by decide) rest
    rw [cleanTail, htrim, List.filter_cons_of_pos (by decide), List.head?_cons, Option.some.injEq] at hc
    exact hc.symm

theorem IsOrigin.extend_eq (h : u.IsOrigin a) {suffix : String}
    (hsuffix : suffix.toList = [] ∨ suffix.toList.head? = some '/') :
    u.extend suffix = .ok (withTail u.scheme (some a) (cleanTail suffix.toList)) := by
  have htail := cleanTail_head hsuffix
  have hread := h.canonical.readAuthority_text (schemeKind_web h.scheme) (t := cleanTail suffix.toList)
    fun c hc => by rw [htail c hc]; decide
  -- all slashes are skipped, and the authority does not start with another one
  have hslashes : ('/' :: '/' :: (a.text.toList ++ cleanTail suffix.toList)).dropWhile
      (fun c => c == '/' || c == '\\') = a.text.toList ++ cleanTail suffix.toList := by
    rw [List.dropWhile_cons_of_pos (by decide), List.dropWhile_cons_of_pos (by decide)]
    cases hlist : a.text.toList with
    | nil => exact absurd hlist h.canonical.text_ne_nil
    | cons c rest =>
      have hends := (h.canonical.mem_text (hlist ▸ List.mem_cons_self)).2
      rw [List.cons_append, List.dropWhile_cons_of_neg]
      intro hslash
      rcases Bool.or_eq_true _ _ ▸ hslash with heq | heq
      · rw [beq_iff_eq.1 heq] at hends
        exact absurd hends (by decide)
      · rw [beq_iff_eq.1 heq] at hends
        exact absurd hends (by decide)
  rw [extend, h.trimmedText, parse, String.toList_ofList, h.clean_append, h.splitScheme?]
  simp only [parseAfterScheme, schemeKind_web h.scheme, hslashes, hread]
  rfl

end

end Relay.Url
