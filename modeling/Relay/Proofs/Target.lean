import Relay.Config.Rules
import Relay.Target
import Relay.Proofs.Origin

/-!
Where requests go. With the origin of a configuration that was accepted, a path is refused only
because it is relative; every other path stays on the origin, and the query of the target is the
query of the request.
-/

namespace Relay

/-! ### Queries as they are written -/

namespace Query

def IsWritten (c : Char) : Prop :=
  c.toNat < 128 ∧ Url.escapesQuery true c = false ∧ Url.isIgnored c = false

theorem encodeByte_isWritten (b : UInt8) : ∀ c ∈ encodeByte b, IsWritten c := by
  have hbytes : ∀ n < 256, (encodeByte (UInt8.ofNat n)).all (fun c =>
      decide (c.toNat < 128 ∧ Url.escapesQuery true c = false ∧ Url.isIgnored c = false)) = true := by
    decide +kernel
  have hb := hbytes b.toNat b.toNat_lt
  rw [UInt8.ofNat_toNat] at hb
  unfold IsWritten
  exact forall_mem_of_all hb

theorem encodeText_isWritten (s : String) : ∀ c ∈ encodeText s, IsWritten c := by
  intro c hc
  obtain ⟨b, -, hc⟩ := List.mem_flatMap.1 hc
  exact encodeByte_isWritten b c hc

theorem serialize_isWritten {m : TextMap} {q : String} (h : serialize m = some q) :
    ∀ c ∈ q.toList, IsWritten c := by
  intro c hc
  unfold serialize at h
  split at h
  · simp at h
  rw [← Option.some.inj h, String.toList_ofList] at hc
  rcases mem_intercalate hc with hc | ⟨l, hl, hc⟩
  · rw [List.mem_singleton.1 hc]
    unfold IsWritten
    decide
  · obtain ⟨p, -, rfl⟩ := List.mem_map.1 hl
    rw [encodePair, List.mem_append, List.mem_cons] at hc
    rcases hc with hc | rfl | hc
    · exact encodeText_isWritten p.1 c hc
    · unfold IsWritten
      decide
    · exact encodeText_isWritten p.2 c hc

end Query

namespace Url

@[simp]
theorem withTail_scheme (scheme : String) (authority : Option Authority) (cs : List Char) :
    (withTail scheme authority cs).scheme = scheme := rfl

@[simp]
theorem withTail_authority (scheme : String) (authority : Option Authority) (cs : List Char) :
    (withTail scheme authority cs).authority = authority := rfl

@[simp]
theorem setQuery_scheme (u : Url) (query : Option String) : (u.setQuery query).scheme = u.scheme := rfl

@[simp]
theorem setQuery_authority (u : Url) (query : Option String) :
    (u.setQuery query).authority = u.authority := rfl

theorem setQuery_serialize {u : Url} (h : (schemeKind u.scheme).isSpecial = true) (m : TextMap) :
    (u.setQuery (Query.serialize m)).query = Query.serialize m := by
  cases hm : Query.serialize m with
  | none => rfl
  | some q =>
    have hchars := Query.serialize_isWritten hm
    -- nothing in it is ignored or escaped
    have hkeep : q.toList.filter (!isIgnored ·) = q.toList :=
      List.filter_eq_self.2 fun c hc => by simp [(hchars c hc).2.2]
    have hplain : Percent.encode (escapesQuery true) q.toList = q.toList :=
      Percent.encode_eq_self fun c hc => ⟨(hchars c hc).1, (hchars c hc).2.1⟩
    show some (String.ofList (Percent.encode (escapesQuery (schemeKind u.scheme).isSpecial)
      (q.toList.filter (!isIgnored ·)))) = some q
    rw [h, hkeep, hplain, String.ofList_toList]

theorem origin?_web {u : Url} {a : Authority} (hscheme : u.scheme = "http" ∨ u.scheme = "https")
    (ha : u.authority = some a) :
    ∃ n, a.portNumber.orElse (fun _ => defaultNumber? u.scheme) = some n ∧
      u.origin? = some ⟨u.scheme, a.host, n⟩ := by
  have hblob : (u.scheme == "blob") = false := by
    rcases hscheme with h | h <;> rw [h] <;> decide
  -- both schemes have a number of their own
  have hnumber : ∃ n, a.portNumber.orElse (fun _ => defaultNumber? u.scheme) = some n := by
    cases a.portNumber with
    | some n => exact ⟨n, rfl⟩
    | none =>
      rcases hscheme with h | h
      · exact ⟨80, by rw [h]; decide⟩
      · exact ⟨443, by rw [h]; decide⟩
  obtain ⟨n, hn⟩ := hnumber
  refine ⟨n, hn, ?_⟩
  have heffective : u.effectiveNumber? = some n := by rw [effectiveNumber?, ha]; exact hn
  rw [origin?, originAtDepth, hblob, schemeKind_web hscheme]
  simp [ha, heffective]

theorem sameOrigin_of_host_eq {u v : Url} {a b : Authority}
    (hscheme : v.scheme = "http" ∨ v.scheme = "https") (hu : u.authority = some a)
    (hv : v.authority = some b) (hsame : u.scheme = v.scheme) (hhost : a.host = b.host)
    (hnumber : a.portNumber = b.portNumber) : u.sameOrigin v = true := by
  obtain ⟨n, hn, horigin⟩ := origin?_web (hsame ▸ hscheme) hu
  obtain ⟨n', hn', horigin'⟩ := origin?_web hscheme hv
  rw [hsame, hnumber] at hn
  have heq : n = n' := Option.some.inj (hn.symm.trans hn')
  rw [sameOrigin, horigin, horigin', hsame, hhost, heq]
  exact beq_self_eq_true _

theorem IsOrigin.sameOrigin_withTail {u : Url} {a : Authority} (h : u.IsOrigin a) (cs : List Char) :
    (withTail u.scheme (some a) cs).sameOrigin u = true :=
  sameOrigin_of_host_eq h.scheme (withTail_authority _ _ _) h.authority (withTail_scheme _ _ _) rfl rfl

end Url

namespace Target

theorem resolve_eq {t : Target} {a : Url.Authority} (h : t.origin.IsOrigin a) (path : String)
    (query : TextMap) :
    t.resolve path query =
      if (t.logicalPath path).toList = [] ∨ (t.logicalPath path).toList.head? = some '/' then
        .ok ((Url.withTail t.origin.scheme (some a)
          (Url.cleanTail (t.logicalPath path).toList)).setQuery (Query.serialize query))
      else .error (.relativePath (t.logicalPath path)) := by
  unfold resolve
  by_cases hpath : (t.logicalPath path).toList = [] ∨ (t.logicalPath path).toList.head? = some '/'
  · -- the text reads as a URL, and the URL passes the check against the origin
    rw [if_pos hpath]
    simp only [h.extend_eq hpath, h.sameOrigin_withTail, if_true]
    rw [if_neg]
    rintro ⟨hne, hhead⟩
    exact hpath.elim hne hhead
  · rw [if_neg hpath]
    simp only
    rw [if_pos (not_or.1 hpath)]

theorem resolve_ok {t : Target} {a : Url.Authority} (h : t.origin.IsOrigin a) {path : String}
    {query : TextMap} {u : Url} (hu : t.resolve path query = .ok u) :
    u.scheme = t.origin.scheme ∧ u.authority = some a ∧ u.query = Query.serialize query := by
  have hspecial := Url.isSpecial_web h.scheme
  rw [resolve_eq h] at hu
  split at hu
  · rw [← Except.ok.inj hu, Url.setQuery_scheme, Url.setQuery_authority, Url.withTail_scheme,
      Url.withTail_authority, Url.setQuery_serialize (by rw [Url.withTail_scheme]; exact hspecial)]
    exact ⟨rfl, rfl, rfl⟩
  · simp at hu

theorem ofText_of_validate {c : Config} (hc : c.validate = .ok c) :
    ∃ t a, ofText c.origin.origin c.origin.mountPrefixes = .ok t ∧
      Url.parse c.origin.origin = .ok t.origin ∧ t.mounts = c.origin.mountPrefixes ∧
      t.origin.IsOrigin a := by
  have hviolations : c.violations = [] := by
    unfold Config.validate at hc
    split at hc
    · assumption
    · simp at hc
  have hfault : Config.originFault? c.origin.origin = none := by
    simp only [Config.violations, List.append_eq_nil_iff] at hviolations
    simpa using hviolations.1.1.1.1
  obtain ⟨u, a, hparse, horigin⟩ := Url.parse_isOrigin hfault
  refine ⟨⟨u, c.origin.mountPrefixes⟩, a, ?_, hparse, rfl, horigin⟩
  rw [ofText, hparse]
  rfl

/-- With an accepted configuration a path is resolved exactly when it is not relative, and the target
has the scheme and the authority of the origin, and the query of the request and no other. -/
theorem resolve_of_validate {c : Config} (hc : c.validate = .ok c) (path : String) (query : TextMap) :
    ∃ t, ofText c.origin.origin c.origin.mountPrefixes = .ok t ∧
      Url.parse c.origin.origin = .ok t.origin ∧
      ((∃ u, t.resolve path query = .ok u) ↔
        Mount.strip c.origin.mountPrefixes path = "" ∨
          (Mount.strip c.origin.mountPrefixes path).toList.head? = some '/') ∧
      (∀ e, t.resolve path query = .error e →
        e = .relativePath (Mount.strip c.origin.mountPrefixes path)) ∧
      ∀ u, t.resolve path query = .ok u →
        u.scheme = t.origin.scheme ∧
        (∃ a, t.origin.authority = some a ∧ u.authority = some a) ∧
        u.query = Query.serialize query ∧ (u.query = none ↔ query.isEmpty = true) := by
  obtain ⟨t, a, htext, hparse, hmounts, horigin⟩ := ofText_of_validate hc
  have hlogical : t.logicalPath path = Mount.strip c.origin.mountPrefixes path := by
    rw [logicalPath, hmounts]
  have hresolve := resolve_eq horigin path query
  rw [hlogical] at hresolve
  refine ⟨t, htext, hparse, ?_, ?_, ?_⟩
  · rw [← String.toList_eq_nil_iff, hresolve]
    split
    · rename_i hpath
      exact iff_of_true ⟨_, rfl⟩ hpath
    · rename_i hpath
      exact iff_of_false (by simp) hpath
  · intro e he
    rw [hresolve] at he
    split at he
    · simp at he
    · exact (Except.error.inj he).symm
  · intro u hu
    obtain ⟨hscheme, hauthority, hquery⟩ := resolve_ok horigin hu
    refine ⟨hscheme, ⟨a, horigin.authority, hauthority⟩, hquery, ?_⟩
    rw [hquery, Query.serialize]
    split <;> simp_all

/-- An origin in an odd spelling, and a path that looks like another server with a query. -/
theorem resolve_of_validate_spelled :
    let c : Config := { origin := { origin := "HTTP://us er:p:w@EXAMPLE.com:8080" } }
    let path := "/api//other.example\\..\\@x:1?y=z#end"
    c.validate = .ok c ∧ Mount.strip c.origin.mountPrefixes path = "//other.example\\..\\@x:1?y=z#end" ∧
      ∃ t u, ofText c.origin.origin c.origin.mountPrefixes = .ok t ∧
        t.resolve path (.ofList [("a b", "c&d")]) = .ok u ∧ u.scheme = t.origin.scheme ∧
        u.query = Query.serialize (.ofList [("a b", "c&d")]) := by
  have hvalid : ({ origin := { origin := "HTTP://us er:p:w@EXAMPLE.com:8080" } } : Config).validate =
      .ok { origin := { origin := "HTTP://us er:p:w@EXAMPLE.com:8080" } } := by decide +kernel
  have hstrip : Mount.strip ["/.netlify/functions/api", "/api"]
      "/api//other.example\\..\\@x:1?y=z#end" = "//other.example\\..\\@x:1?y=z#end" := by
    decide +kernel
  obtain ⟨t, htext, -, hiff, -, hurl⟩ := resolve_of_validate hvalid
    "/api//other.example\\..\\@x:1?y=z#end" (.ofList [("a b", "c&d")])
  obtain ⟨u, hu⟩ := hiff.2 (.inr (by decide +kernel))
  exact ⟨hvalid, hstrip, t, u, htext, hu, (hurl u hu).1, (hurl u hu).2.2.1⟩

end Target

end Relay
