import Mathlib.Data.List.Nodup
import Relay.Proofs.HeaderWrites
import Relay.Proofs.Hosts

/-!
The headers of a request, however it came about. Names are kept in lower case, so no two of them agree up
to case, and what is found under a name, in whatever spelling, is the last value that was given for it: by
the client, by an event in the order of its names, or step by step.
-/

namespace Relay

/-! ### Lower case -/

namespace Ascii

theorem toLower_not_upper (c : Char) : ¬('A' ≤ c.toLower ∧ c.toLower ≤ 'Z') := by
  by_cases hascii : c.toNat < 128
  · revert hascii
    apply forall_ascii
    decide
  · rw [toLower_eq_self hascii]
    rintro ⟨-, hc⟩
    have hcode : c.toNat ≤ 'Z'.toNat := hc
    exact hascii (Nat.lt_of_le_of_lt hcode (by decide))

theorem lower_not_upper (s : String) : ∀ c ∈ (lower s).toList, ¬('A' ≤ c ∧ c ≤ 'Z') := by
  intro c hc
  unfold lower at hc
  rw [String.toList_ofList] at hc
  obtain ⟨d, -, rfl⟩ := List.mem_map.1 hc
  exact toLower_not_upper d

end Ascii

/-! ### The last entry -/

theorem getLast?_eq_some_iff_of_sorted {l : List (String × String)} (h : l.Pairwise fun a b => a.1 < b.1)
    {e : String × String} : l.getLast? = some e ↔ e ∈ l ∧ ∀ x ∈ l, ¬e.1 < x.1 := by
  constructor
  · intro hlast
    obtain ⟨front, rfl⟩ := List.getLast?_eq_some_iff.1 hlast
    refine ⟨List.mem_append_right front List.mem_cons_self, fun x hx hlt => ?_⟩
    rcases List.mem_append.1 hx with hx | hx
    · have hbefore := (List.pairwise_append.1 h).2.2 x hx e List.mem_cons_self
      exact String.lt_irrefl _ (String.lt_trans hlt hbefore)
    · rw [List.mem_singleton.1 hx] at hlt
      exact String.lt_irrefl _ hlt
  · rintro ⟨hmem, hgreatest⟩
    cases hlast : l.getLast? with
    | none =>
      rw [List.getLast?_eq_none_iff.1 hlast] at hmem
      cases hmem
    | some last =>
      obtain ⟨front, rfl⟩ := List.getLast?_eq_some_iff.1 hlast
      rcases List.mem_append.1 hmem with hfront | hback
      · -- an earlier entry has a smaller key
        have hbefore := (List.pairwise_append.1 h).2.2 e hfront last List.mem_cons_self
        exact absurd hbefore (hgreatest last (List.mem_append_right front List.mem_cons_self))
      · rw [List.mem_singleton.1 hback]

/-! ### Maps of given headers -/

namespace Headers

variable {m : TextMap} {given : List (String × String)}

/-- A map of the headers that were given: names in lower case, no two that agree up to case, and under each
name the last value that was given for it. -/
structure IsIndex (m : TextMap) (given : List (String × String)) : Prop where
  lower : ∀ e ∈ m.entries, ∀ c ∈ e.1.toList, ¬('A' ≤ c ∧ c ≤ 'Z')
  distinct : IsDistinct m
  found : ∀ e ∈ m.entries, ∀ name, Ascii.sameName e.1 name = true → m.lookup? name = some e.2
  last : ∀ name, m.lookup? name = ((given.filter fun h => Ascii.sameName h.1 name).getLast?).map (·.2)
  absent : ∀ name, m.lookup? name = none ↔ ∀ h ∈ given, Ascii.sameName h.1 name = false

def index (given : List (String × String)) : TextMap :=
  .ofList (given.map fun h => (Ascii.lower h.1, h.2))

theorem mem_index {e : String × String} (h : e ∈ (index given).entries) : ∃ name, e.1 = Ascii.lower name := by
  obtain ⟨x, -, rfl⟩ := List.mem_map.1 (TextMap.mem_ofList h)
  exact ⟨x.1, rfl⟩

theorem lower_index (given : List (String × String)) :
    ∀ e ∈ (index given).entries, Ascii.lower e.1 = e.1 := by
  intro e he
  obtain ⟨name, hname⟩ := mem_index he
  rw [hname, Ascii.lower_lower]

theorem isDistinct_of_lower (h : ∀ e ∈ m.entries, Ascii.lower e.1 = e.1) : IsDistinct m := by
  intro a ha b hb hsame
  have hlower := (Ascii.sameName_iff a.1 b.1).1 hsame
  rw [h a ha, h b hb] at hlower
  exact List.inj_on_of_nodup_map m.nodup_keys ha hb hlower

theorem IsDistinct.lookup?_eq_some (h : IsDistinct m) {e : String × String} (he : e ∈ m.entries)
    {name : String} (hname : Ascii.sameName e.1 name = true) : m.lookup? name = some e.2 := by
  have hmem : e ∈ entriesOf m name := List.mem_filter.2 ⟨he, hname⟩
  rw [lookup?_eq_head?]
  cases hentries : entriesOf m name with
  | nil =>
    rw [hentries] at hmem
    cases hmem
  | cons first more =>
    have hfirst : first ∈ entriesOf m name := hentries ▸ List.mem_cons_self
    obtain ⟨hin, hsame⟩ := List.mem_filter.1 hfirst
    have hagree : Ascii.sameName first.1 e.1 = true := by
      rw [Ascii.sameName_iff] at hsame hname ⊢
      exact hsame.trans hname.symm
    rw [h first hin e he hagree]
    rfl

theorem lookup?_eq_get? (h : ∀ e ∈ m.entries, Ascii.lower e.1 = e.1) (name : String) :
    m.lookup? name = m.get? (Ascii.lower name) := by
  unfold TextMap.lookup? TextMap.get?
  rw [← List.head?_filter, ← List.head?_filter]
  congr 2
  apply List.filter_congr
  intro e he
  rw [Ascii.sameName, h e he]

theorem index_lookup? (given : List (String × String)) (name : String) :
    (index given).lookup? name =
      ((given.filter fun h => Ascii.sameName h.1 name).getLast?).map (·.2) := by
  rw [lookup?_eq_get? (lower_index given), index, TextMap.get?_ofList, List.filter_map, List.getLast?_map,
    Option.map_map]
  rfl

theorem isIndex_index (given : List (String × String)) : IsIndex (index given) given := by
  have hdistinct := isDistinct_of_lower (lower_index given)
  refine ⟨?_, hdistinct, ?_, index_lookup? given, ?_⟩
  · intro e he
    obtain ⟨name, hname⟩ := mem_index he
    rw [hname]
    exact Ascii.lower_not_upper name
  · exact fun e he name hname => hdistinct.lookup?_eq_some he hname
  · intro name
    rw [index_lookup?, Option.map_eq_none_iff, List.getLast?_eq_none_iff, List.filter_eq_nil_iff]
    simp only [Bool.not_eq_true]

theorem IsIndex.lookup?_eq_some_iff {n : TextMap} (h : IsIndex m n.entries) {name value : String} :
    m.lookup? name = some value ↔ ∃ key, (key, value) ∈ n.entries ∧ Ascii.sameName key name = true ∧
      ∀ other ∈ n.entries, Ascii.sameName other.1 name = true → Utf8.encode other.1 ≤ Utf8.encode key := by
  have hsorted := n.sorted.filter fun h => Ascii.sameName h.1 name
  rw [h.last, Option.map_eq_some_iff]
  constructor
  · rintro ⟨⟨key, _⟩, hlast, rfl⟩
    obtain ⟨hmem, hgreatest⟩ := (getLast?_eq_some_iff_of_sorted hsorted).1 hlast
    obtain ⟨hin, hsame⟩ := List.mem_filter.1 hmem
    refine ⟨key, hin, hsame, fun other hother hagrees => List.not_lt.1 fun hlt => ?_⟩
    exact hgreatest other (List.mem_filter.2 ⟨hother, hagrees⟩) (Utf8.encode_lt_encode_iff.1 hlt)
  · rintro ⟨key, hin, hsame, hgreatest⟩
    refine ⟨(key, value), (getLast?_eq_some_iff_of_sorted hsorted).2 ⟨?_, fun other hother hlt => ?_⟩, rfl⟩
    · exact List.mem_filter.2 ⟨hin, hsame⟩
    · obtain ⟨hother, hagrees⟩ := List.mem_filter.1 hother
      exact List.not_lt.2 (hgreatest other hother hagrees) (Utf8.encode_lt_encode_iff.2 hlt)

theorem lookup?_congr (m : TextMap) {name other : String} (h : Ascii.sameName name other = true) :
    m.lookup? name = m.lookup? other := by
  rw [lookup?_eq_head?, lookup?_eq_head?, entriesOf_congr h]

end Headers

/-! ### Where requests come from -/

open Headers (IsIndex index isIndex_index)

def Http.Headers.textual (fields : Http.Headers) : List (String × String) :=
  fields.filterMap fun f => (headerText? f.2).map fun text => (f.1, text)

theorem Http.Request.textHeaders_lower (fields : Http.Headers) :
    textHeaders (fields.map fun f => (Ascii.lower f.1, f.2)) = index fields.textual := by
  unfold textHeaders index Http.Headers.textual
  rw [List.filterMap_map, List.map_filterMap]
  congr 1
  apply List.filterMap_congr
  intro f _
  show (headerText? f.2).map _ = ((headerText? f.2).map _).map _
  rw [Option.map_map]
  rfl

theorem Http.Request.toInbound_isIndex {r : Request} {fields : Http.Headers}
    (hfields : r.headers = fields.map fun f => (Ascii.lower f.1, f.2)) {body : Bytes} {max : UInt64}
    {i : Inbound} (h : r.toInbound body max = .ok i) : IsIndex i.headers fields.textual := by
  rw [toInbound_headers h, hfields, textHeaders_lower]
  exact isIndex_index fields.textual

theorem Event.toInbound_ok {e : Event} {i : Inbound} (h : e.toInbound = .ok i) :
    i.headers = index (e.headers.getD .empty).entries := by
  unfold toInbound at h
  split at h
  · cases h
  · rw [← Except.ok.inj h]
    rfl

namespace Inbound

inductive Step
  | header (name value : String)
  | query (name value : String)
  | body (text : String)
  | binaryBody (bytes : Bytes)

def Step.apply (r : Inbound) : Step → Inbound
  | .header name value => r.withHeader name value
  | .query name value => r.withQuery name value
  | .body text => r.withBody text
  | .binaryBody bytes => r.withBinaryBody bytes

def build (method : Method) (path : String) (steps : List Step) : Inbound :=
  steps.foldl Step.apply { method, path }

def Step.header? : Step → Option (String × String)
  | .header name value => some (name, value)
  | _ => none

theorem Step.apply_headers (r : Inbound) (s : Step) :
    (s.apply r).headers = (s.header?.toList.map fun h => (Ascii.lower h.1, h.2)).foldl
      (fun m p => m.insert p.1 p.2) r.headers := by
  cases s <;> rfl

theorem build_headers (method : Method) (path : String) (steps : List Step) :
    (build method path steps).headers = index (steps.filterMap Step.header?) := by
  -- each step adds the header it gives to those that are there
  have hfold : ∀ (steps : List Step) (r : Inbound), (steps.foldl Step.apply r).headers =
      ((steps.filterMap Step.header?).map fun h => (Ascii.lower h.1, h.2)).foldl
        (fun m p => m.insert p.1 p.2) r.headers := by
    intro steps
    induction steps with
    | nil => exact fun r => rfl
    | cons s steps ih =>
      intro r
      rw [List.foldl_cons, ih, Step.apply_headers, ← List.foldl_append, ← List.map_append]
      congr 2
      cases s <;> rfl
  exact hfold steps { method, path }

/-- However a request came about, its headers have names in lower case of which no two agree up to case, and
in every spelling of a name the same is found: the last value the client sent that is text, the value under
the greatest of the names of an event, and the value of the last step. Nothing is found exactly if there is
no such value, name or step. -/
theorem headers_indexed :
    (∀ (r : Http.Request) (fields : Http.Headers) body max i,
      r.headers = fields.map (fun f => (Ascii.lower f.1, f.2)) → r.toInbound body max = .ok i →
      IsIndex i.headers (fields.filterMap fun f => (Http.headerText? f.2).map fun text => (f.1, text))) ∧
    (∀ (e : Event) i, e.toInbound = .ok i → IsIndex i.headers (e.headers.getD .empty).entries ∧
      ∀ name value, i.header? name = some value ↔ ∃ key, (key, value) ∈ (e.headers.getD .empty).entries ∧
        Ascii.sameName key name = true ∧ ∀ other ∈ (e.headers.getD .empty).entries,
          Ascii.sameName other.1 name = true → Utf8.encode other.1 ≤ Utf8.encode key) ∧
    (∀ method path steps, IsIndex (build method path steps).headers (steps.filterMap Step.header?)) ∧
    ∀ (i : Inbound) name other, Ascii.sameName name other = true → i.header? name = i.header? other := by
  refine ⟨?_, ?_, ?_, ?_⟩
  · intro r fields body max i hfields h
    exact Http.Request.toInbound_isIndex hfields h
  · intro e i h
    have hindex : IsIndex i.headers (e.headers.getD .empty).entries := by
      rw [Event.toInbound_ok h]
      exact isIndex_index _
    exact ⟨hindex, fun name value => hindex.lookup?_eq_some_iff⟩
  · intro method path steps
    rw [build_headers]
    exact isIndex_index _
  · exact fun i name other h => Headers.lookup?_congr i.headers h

/-- Names that differ in case: of a client the second value is no text, of an event the greatest name is not
the last that was written, and a query is added between two steps. -/
theorem headers_indexed_spelled :
    let fields : Http.Headers := [("X-A", [49]), ("x-a", [50]), ("X-a", [255])]
    let e : Event :=
      { method := "get", path := "/", headers := some (.ofList [("aB", "1"), ("Ab", "2"), ("AB", "3")]) }
    let steps : List Step := [.header "X-a" "1", .query "X-A" "2", .header "x-A" "3", .body "4"]
    ∃ r i j, Http.Request.build "GET" "/" fields (.complete []) = .ok r ∧ r.toInbound [] 0 = .ok i ∧
      i.header? "X-A" = some "2" ∧ i.header? "x-b" = none ∧ e.toInbound = .ok j ∧
      j.header? "ab" = some "1" ∧ (build .get "/" steps).header? "X-A" = some "3" ∧
      IsIndex (build .get "/" steps).headers [("X-a", "1"), ("x-A", "3")] := by
  intro fields e steps
  obtain ⟨hclient, hevent, hsteps, -⟩ := headers_indexed
  let r : Http.Request := ⟨"GET", ⟨"/", none⟩, [("x-a", [49]), ("x-a", [50]), ("x-a", [255])], .complete []⟩
  let i : Inbound := { method := .get, path := "/", headers := .ofList [("x-a", "2")] }
  let j : Inbound := { method := .get, path := "/", headers := .ofList [("ab", "1")] }
  have hr : Http.Request.build "GET" "/" fields (.complete []) = .ok r := by decide +kernel
  have hi : r.toInbound [] 0 = .ok i := by decide +kernel
  have hj : e.toInbound = .ok j := by decide +kernel
  have hindex := hclient r fields [] 0 i (by decide +kernel) hi
  refine ⟨r, i, j, hr, hi, ?_, (hindex.absent "x-b").2 (by decide +kernel), hj, ?_, ?_, hsteps .get "/" steps⟩
  · exact (hindex.last "X-A").trans (by decide +kernel)
  · exact ((hevent e j hj).2 "ab" "1").2 ⟨"aB", by decide +kernel, by decide +kernel, by decide +kernel⟩
  · exact ((hsteps .get "/" steps).last "X-A").trans (by decide +kernel)

end Inbound

end Relay
