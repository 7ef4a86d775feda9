import Mathlib.Data.List.Basic
import Relay.Proofs.Text
import Relay.Target

/-!
Paths and the prefixes under which they arrive. The first listed prefix that ends at a segment boundary of
the path is removed, once and as a whole, and a path under no prefix stays as it is. So a path with a slash
at its head is never turned into a relative one.
-/

namespace Relay

namespace Mount

/-- A path is a prefix and a rest, and the prefix ends where a segment does. -/
def Splits (path mount rest : String) : Prop :=
  path = mount ++ rest ∧ (rest = "" ∨ rest.toList.head? = some '/')

def IsRooted (path : String) : Prop := path = "" ∨ path.toList.head? = some '/'

/-! ### One prefix -/

variable {mount path rest : String} {mounts : List String}

theorem rest?_eq_some_iff {m p r : List Char} :
    rest? m p = some r ↔ p = m ++ r ∧ (r = [] ∨ r.head? = some '/') := by
  unfold rest?
  split
  · rename_i hcut
    rw [List.isPrefixOf?_eq_some_iff_append_eq] at hcut
    constructor
    · rintro ⟨⟩
      exact ⟨hcut.symm, .inl rfl⟩
    · rintro ⟨hp, -⟩
      rw [List.append_cancel_left (hcut.trans hp)]
  · rename_i more hcut
    rw [List.isPrefixOf?_eq_some_iff_append_eq] at hcut
    constructor
    · rintro ⟨⟩
      exact ⟨hcut.symm, .inr rfl⟩
    · rintro ⟨hp, -⟩
      rw [List.append_cancel_left (hcut.trans hp)]
  · -- neither at the end of the path nor in front of a slash
    rename_i hend hslash
    refine iff_of_false (fun h => nomatch h) ?_
    rintro ⟨hp, hr⟩
    have hcut : m.isPrefixOf? p = some r := List.isPrefixOf?_eq_some_iff_append_eq.2 hp.symm
    cases r with
    | nil => exact hend hcut
    | cons c r =>
      obtain rfl : c = '/' := by simpa using hr
      exact hslash r hcut

theorem rest?_eq_some_iff_splits :
    rest? mount.toList path.toList = some rest.toList ↔ Splits path mount rest := by
  rw [rest?_eq_some_iff, Splits, ← String.toList_append, String.toList_inj, String.toList_eq_nil_iff]

theorem rest?_eq_none_iff_splits :
    rest? mount.toList path.toList = none ↔ ∀ rest, ¬Splits path mount rest := by
  constructor
  · intro hnone rest hsplits
    rw [← rest?_eq_some_iff_splits, hnone] at hsplits
    cases hsplits
  · intro h
    cases hrest : rest? mount.toList path.toList with
    | none => rfl
    | some r =>
      rw [← String.toList_ofList (l := r), rest?_eq_some_iff_splits] at hrest
      exact absurd hrest (h _)

theorem Splits.isRooted_rest (h : Splits path mount rest) : IsRooted rest := h.2

theorem Splits.encode_rest (h : Splits path mount rest) :
    Utf8.encode rest = (Utf8.encode path).drop (Utf8.encode mount).length := by
  rw [h.1, Utf8.encode_append, List.drop_left]

/-! ### A list of prefixes -/

theorem strip_of_none (h : ∀ m ∈ mounts, ∀ rest, ¬Splits path m rest) :
    matching mounts path = none ∧ strip mounts path = path := by
  have hnone : ∀ m ∈ mounts, rest? m.toList path.toList = none := fun m hm =>
    rest?_eq_none_iff_splits.2 (h m hm)
  constructor
  · apply List.find?_eq_none.2
    intro m hm
    rw [hnone m hm]
    exact Bool.false_ne_true
  · unfold strip
    rw [List.findSome?_eq_none_iff.2 hnone]

theorem strip_of_first {front : List String} (h : Splits path mount rest)
    (hfront : ∀ m ∈ front, ∀ rest, ¬Splits path m rest) (back : List String) :
    matching (front ++ mount :: back) path = some mount ∧
      strip (front ++ mount :: back) path = rest := by
  have hmount : rest? mount.toList path.toList = some rest.toList := rest?_eq_some_iff_splits.2 h
  have hnone : ∀ m ∈ front, rest? m.toList path.toList = none := fun m hm =>
    rest?_eq_none_iff_splits.2 (hfront m hm)
  constructor
  · unfold matching
    rw [List.find?_eq_some_iff_append]
    refine ⟨by rw [hmount]; rfl, front, back, rfl, fun m hm => ?_⟩
    rw [hnone m hm]
    rfl
  · unfold strip
    rw [List.findSome?_append, List.findSome?_eq_none_iff.2 hnone, List.findSome?_cons, hmount]
    exact String.ofList_toList

theorem first_cases (mounts : List String) (path : String) :
    (∃ front mount back rest, mounts = front ++ mount :: back ∧ Splits path mount rest ∧
      ∀ m ∈ front, ∀ rest, ¬Splits path m rest) ∨
    ∀ m ∈ mounts, ∀ rest, ¬Splits path m rest := by
  induction mounts with
  | nil => exact .inr (by simp)
  | cons m mounts ih =>
    by_cases hm : ∃ rest, Splits path m rest
    · obtain ⟨rest, hrest⟩ := hm
      exact .inl ⟨[], m, mounts, rest, rfl, hrest, by simp⟩
    · have hnot : ∀ rest, ¬Splits path m rest := not_exists.1 hm
      rcases ih with ⟨front, mount, back, rest, rfl, hrest, hfront⟩ | hnone
      · exact .inl ⟨m :: front, mount, back, rest, rfl, hrest, List.forall_mem_cons.2 ⟨hnot, hfront⟩⟩
      · exact .inr (List.forall_mem_cons.2 ⟨hnot, hnone⟩)

theorem IsRooted.strip (h : IsRooted path) (mounts : List String) : IsRooted (strip mounts path) := by
  rcases first_cases mounts path with ⟨front, mount, back, rest, rfl, hrest, hfront⟩ | hnone
  · rw [(strip_of_first hrest hfront back).2]
    exact hrest.isRooted_rest
  · rw [(strip_of_none hnone).2]
    exact h

theorem isRooted_strip_iff (h : ∀ m ∈ mounts, m.toList.head? = some '/') :
    IsRooted (strip mounts path) ↔ IsRooted path := by
  refine ⟨fun hstrip => ?_, fun hpath => hpath.strip mounts⟩
  rcases first_cases mounts path with ⟨front, mount, back, rest, rfl, hrest, hfront⟩ | hnone
  · have hslash := h mount (List.mem_append_right front List.mem_cons_self)
    right
    rw [hrest.1, String.toList_append, List.head?_append, hslash]
    rfl
  · rwa [(strip_of_none hnone).2] at hstrip

theorem resolve_ne_relativePath {t : Target} (h : IsRooted (t.logicalPath path)) (query : TextMap)
    (p : String) : t.resolve path query ≠ .error (.relativePath p) := by
  have hlogical : ¬((t.logicalPath path).toList ≠ [] ∧ (t.logicalPath path).toList.head? ≠ some '/') := by
    rintro ⟨hne, hslash⟩
    rcases h with hempty | hhead
    · exact hne (String.toList_eq_nil_iff.2 hempty)
    · exact hslash hhead
  unfold Target.resolve
  rw [if_neg hlogical]
  split
  · exact fun hrefused => nomatch hrefused
  · split <;> exact fun hrefused => nomatch hrefused

/-- Whatever the prefixes and the path are: the first prefix that the path lies under is removed, once and as
a whole, so that the prefix and what is left make up the path, in characters and in bytes; a path under no
prefix is left as it is. A path with a slash at its head stays one, or becomes empty, and is never refused
as a relative one; under prefixes that start with a slash and do not end with one, no other path does. -/
theorem strip_removes_first (mounts : List String) (path : String) :
    ((∃ m ∈ mounts, ∃ rest, path = m ++ rest ∧ (rest = "" ∨ rest.toList.head? = some '/')) →
      ∃ front mount back, mounts = front ++ mount :: back ∧
        (∀ m ∈ front, ∀ rest, ¬(path = m ++ rest ∧ (rest = "" ∨ rest.toList.head? = some '/'))) ∧
        matching mounts path = some mount ∧
        mount ++ strip mounts path = path ∧ IsRooted (strip mounts path) ∧
        Utf8.encode (strip mounts path) = (Utf8.encode path).drop (Utf8.encode mount).length) ∧
    ((∀ m ∈ mounts, ∀ rest, ¬(path = m ++ rest ∧ (rest = "" ∨ rest.toList.head? = some '/'))) →
      matching mounts path = none ∧ strip mounts path = path) ∧
    (∀ t : Target, t.mounts = mounts → IsRooted path →
      IsRooted (t.logicalPath path) ∧ ∀ query p, t.resolve path query ≠ .error (.relativePath p)) ∧
    ((∀ m ∈ mounts, m.toList.head? = some '/' ∧ m.toList.getLast? ≠ some '/') →
      (IsRooted (strip mounts path) ↔ IsRooted path)) := by
  refine ⟨?_, strip_of_none, ?_, ?_⟩
  · rintro ⟨m, hm, rest, hsplits⟩
    rcases first_cases mounts path with ⟨front, mount, back, rest, rfl, hrest, hfront⟩ | hnone
    · obtain ⟨hmatching, hstrip⟩ := strip_of_first hrest hfront back
      refine ⟨front, mount, back, rfl, hfront, hmatching, ?_⟩
      rw [hstrip]
      exact ⟨hrest.1.symm, hrest.isRooted_rest, hrest.encode_rest⟩
    · exact absurd hsplits (hnone m hm rest)
  · rintro t rfl hpath
    have hlogical : IsRooted (t.logicalPath path) := hpath.strip t.mounts
    exact ⟨hlogical, fun query p => resolve_ne_relativePath hlogical query p⟩
  · intro hmounts
    exact isRooted_strip_iff fun m hm => (hmounts m hm).1

/-- A prefix that is another one's beginning, in front of it, and a letter that takes two bytes. -/
theorem strip_removes_first_nested :
    let mounts := ["/äp", "/äpi", "/äpi/v1", "/api"]
    matching mounts "/äpi/v1/äpi/ü" = some "/äpi" ∧ strip mounts "/äpi/v1/äpi/ü" = "/v1/äpi/ü" ∧
      Utf8.encode "/v1/äpi/ü" = (Utf8.encode "/äpi/v1/äpi/ü").drop 5 ∧
      matching mounts "/äpix" = none ∧ strip mounts "/äpix" = "/äpix" ∧
      IsRooted (strip mounts "/äpix") := by
  intro mounts
  obtain ⟨hunder, -, -, -⟩ := strip_removes_first mounts "/äpi/v1/äpi/ü"
  obtain ⟨-, hnone, -, hrooted⟩ := strip_removes_first mounts "/äpix"
  have hstrip : strip mounts "/äpi/v1/äpi/ü" = "/v1/äpi/ü" := by decide +kernel
  obtain ⟨front, mount, back, -, -, hmatching, hjoined, -, hbytes⟩ :=
    hunder ⟨"/äpi", by decide, "/v1/äpi/ü", by decide, .inr (by decide)⟩
  have hfirst : matching mounts "/äpi/v1/äpi/ü" = some "/äpi" := by decide +kernel
  obtain rfl : mount = "/äpi" := Option.some.inj (hmatching.symm.trans hfirst)
  rw [hstrip] at hbytes
  have hother : ∀ m ∈ mounts, ∀ rest,
      ¬("/äpix" = m ++ rest ∧ (rest = "" ∨ rest.toList.head? = some '/')) := by
    have hrest : ∀ m ∈ mounts, rest? m.toList "/äpix".toList = none := by decide +kernel
    exact fun m hm => rest?_eq_none_iff_splits.1 (hrest m hm)
  refine ⟨hfirst, hstrip, hbytes, (hnone hother).1, (hnone hother).2, ?_⟩
  exact (hrooted (by decide)).2 (.inr (by decide))

end Mount

end Relay
