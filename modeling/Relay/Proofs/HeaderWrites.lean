import Relay.Proofs.Answer

/-!
Header maps under a series of steps, each of which sets one header, those that let any site call, or
those that were received. Under every name stands what the last step that wrote it has set, in the
spelling of that step; the rest of the map is as it was.
-/

namespace Relay.Headers

/-! ### One name -/

theorem mem_entries_iff {m : TextMap} {e : String × String} : e ∈ m.entries ↔ e ∈ entriesOf m e.1 := by
  unfold entriesOf
  rw [List.mem_filter]
  exact (and_iff_left (Ascii.sameName_refl e.1)).symm

theorem ext_entriesOf {m n : TextMap} (h : ∀ name, entriesOf m name = entriesOf n name) : m = n := by
  apply TextMap.ext_mem
  intro e
  rw [mem_entries_iff, h, ← mem_entries_iff]

theorem lookup?_eq_head? (m : TextMap) (name : String) :
    m.lookup? name = (entriesOf m name).head?.map (·.2) := by
  unfold TextMap.lookup? entriesOf
  rw [List.head?_filter]

/-! ### Received headers -/

section

variable {received : Http.Headers}

def texts (received : Http.Headers) (name : String) : List String :=
  (received.values name).filterMap Http.headerText?

def mergedText? (received : Http.Headers) (name : String) : Option String :=
  if isStripped name then none else joinedText? received name

theorem joinedText?_eq (received : Http.Headers) (name : String) :
    joinedText? received name =
      if texts received name = [] then none else some (", ".intercalate (texts received name)) := by
  unfold joinedText? texts
  cases (received.values name).filterMap Http.headerText? <;> rfl

theorem mergedText?_eq_some_iff {name text : String} :
    mergedText? received name = some text ↔
      isStripped name = false ∧ texts received name ≠ [] ∧
        text = ", ".intercalate (texts received name) := by
  unfold mergedText?
  rw [joinedText?_eq]
  cases isStripped name with
  | true => simp
  | false =>
    by_cases htexts : texts received name = []
    · simp [htexts]
    · simp [htexts, eq_comm]

theorem mergeName_eq (m : TextMap) (name : String) :
    mergeName received m name = (mergedText? received name).elim m fun text => set m name text := by
  unfold mergeName mergedText?
  split
  · rfl
  · cases joinedText? received name <;> rfl

theorem entriesOf_mergeName_self (m : TextMap) (name : String) :
    entriesOf (mergeName received m name) name =
      (mergedText? received name).elim (entriesOf m name) fun text => [(name, text)] := by
  rw [mergeName_eq]
  cases mergedText? received name with
  | none => rfl
  | some text => exact entriesOf_set_self m name text

theorem entriesOf_mergeName_other {name other : String} (h : Ascii.sameName other name = false)
    (m : TextMap) : entriesOf (mergeName received m other) name = entriesOf m name := by
  rw [mergeName_eq]
  cases mergedText? received other with
  | none => rfl
  | some text => exact entriesOf_set_other m h text

theorem entriesOf_foldl_mergeName {name : String} (hname : Ascii.lower name = name)
    {names : List String} (hnames : ∀ n ∈ names, Ascii.lower n = n) (m : TextMap) :
    entriesOf (names.foldl (mergeName received) m) name =
      if name ∈ names then (mergedText? received name).elim (entriesOf m name) fun text => [(name, text)]
      else entriesOf m name := by
  -- by induction on the names, from any map: only the name itself changes what stands under it
  induction names generalizing m with
  | nil => rfl
  | cons first names ih =>
    rw [List.foldl_cons, ih fun n hn => hnames n (List.mem_cons_of_mem first hn)]
    by_cases hfirst : first = name
    · subst hfirst
      rw [entriesOf_mergeName_self, if_pos List.mem_cons_self]
      -- to set it again changes nothing
      cases mergedText? received first with
      | none => exact ite_self _
      | some text => exact ite_self _
    · have hother : Ascii.sameName first name = false := by
        rw [Ascii.sameName, hnames first List.mem_cons_self, hname]
        exact beq_false_of_ne hfirst
      rw [entriesOf_mergeName_other hother]
      simp only [List.mem_cons, Ne.symm hfirst, false_or]

theorem mem_names_of_texts {name : String} (h : texts received name ≠ []) :
    ∃ x ∈ received, x.1 = name := by
  obtain ⟨text, htext⟩ := List.exists_mem_of_ne_nil _ h
  obtain ⟨value, hvalue, -⟩ := List.mem_filterMap.1 htext
  obtain ⟨x, hx, -⟩ := List.mem_map.1 hvalue
  obtain ⟨hmem, hsame⟩ := List.mem_filter.1 hx
  exact ⟨x, hmem, beq_iff_eq.1 hsame⟩

theorem entriesOf_merge (hreceived : ∀ x ∈ received, Ascii.lower x.1 = x.1) (m : TextMap)
    (name : String) :
    entriesOf (merge received m) name =
      (mergedText? received (Ascii.lower name)).elim (entriesOf m name)
        fun text => [(Ascii.lower name, text)] := by
  have hnames : ∀ n ∈ received.names, Ascii.lower n = n := by
    intro n hn
    obtain ⟨x, hx, rfl⟩ := List.mem_map.1 (List.mem_eraseDups.1 hn)
    exact hreceived x hx
  -- received names are lower case, so the map is looked at under the name in lower case
  have hspelling : ∀ m, entriesOf m name = entriesOf m (Ascii.lower name) := fun m =>
    entriesOf_congr ((Ascii.sameName_iff _ _).2 (Ascii.lower_lower name).symm) m
  rw [hspelling, hspelling, merge, entriesOf_foldl_mergeName (Ascii.lower_lower name) hnames]
  by_cases hmem : Ascii.lower name ∈ received.names
  · rw [if_pos hmem]
  · -- a name that was not received has no texts
    rw [if_neg hmem]
    cases hmerged : mergedText? received (Ascii.lower name) with
    | none => rfl
    | some text =>
      obtain ⟨x, hx, hsame⟩ := mem_names_of_texts (mergedText?_eq_some_iff.1 hmerged).2.1
      exact absurd (List.mem_eraseDups.2 (List.mem_map.2 ⟨x, hx, hsame⟩)) hmem

end

/-! ### Steps -/

inductive Step
  | set (name value : String)
  | allowAll
  | merge (received : Http.Headers)

def Step.apply (m : TextMap) : Step → TextMap
  | .set name value => Headers.set m name value
  | .allowAll => Headers.allowAll m
  | .merge received => Headers.merge received m

def run (m : TextMap) (steps : List Step) : TextMap := steps.foldl Step.apply m

namespace Step

/-- The headers that a step writes: the one it sets, those that let any site call, or one line for each
received name that has texts and does not belong to the connection. -/
inductive Writes : Step → String × String → Prop
  | set {name value : String} : Writes (.set name value) (name, value)
  | allowAll {h : String × String} (hh : h ∈ cors) : Writes .allowAll h
  | merge {received : Http.Headers} {name : String} (hkept : isStripped name = false)
      (htexts : texts received name ≠ []) :
      Writes (.merge received) (name, ", ".intercalate (texts received name))

def Names (s : Step) (name : String) : Prop := ∃ h, s.Writes h ∧ Ascii.sameName h.1 name = true

def HasLowerNames (s : Step) : Prop :=
  ∀ received, s = .merge received → ∀ x ∈ received, Ascii.lower x.1 = x.1

variable {s : Step} {name : String}

theorem writes_set_iff {value : String} {h : String × String} :
    (Step.set name value).Writes h ↔ h = (name, value) :=
  ⟨fun hw => by cases hw; rfl, fun heq => heq ▸ .set⟩

theorem writes_allowAll_iff {h : String × String} : Step.allowAll.Writes h ↔ h ∈ cors :=
  ⟨fun hw => by cases hw; assumption, .allowAll⟩

theorem writes_merge_iff {received : Http.Headers} {h : String × String} :
    (Step.merge received).Writes h ↔
      isStripped h.1 = false ∧ texts received h.1 ≠ [] ∧
        h.2 = ", ".intercalate (texts received h.1) := by
  constructor
  · intro hw
    cases hw with
    | merge hkept htexts => exact ⟨hkept, htexts, rfl⟩
  · obtain ⟨name, value⟩ := h
    rintro ⟨hkept, htexts, hvalue⟩
    change value = ", ".intercalate (texts received name) at hvalue
    rw [hvalue]
    exact .merge hkept htexts

theorem Writes.names {h : String × String} (hw : s.Writes h) : s.Names h.1 :=
  ⟨h, hw, Ascii.sameName_refl h.1⟩

theorem Names.congr {other : String} (hn : s.Names name) (h : Ascii.sameName name other = true) :
    s.Names other := by
  obtain ⟨w, hw, hsame⟩ := hn
  refine ⟨w, hw, (Ascii.sameName_iff _ _).2 ?_⟩
  exact ((Ascii.sameName_iff _ _).1 hsame).trans ((Ascii.sameName_iff _ _).1 h)

theorem entriesOf_apply_of_writes (hs : s.HasLowerNames) {h : String × String} (hw : s.Writes h)
    (m : TextMap) : entriesOf (s.apply m) h.1 = [h] := by
  cases hw with
  | set => exact entriesOf_set_self m _ _
  | allowAll hh => exact entriesOf_allowAll hh m
  | @merge received name hkept htexts =>
    -- a name with texts was received, in lower case
    have hlower : Ascii.lower name = name := by
      obtain ⟨x, hx, rfl⟩ := mem_names_of_texts htexts
      exact hs received rfl x hx
    show entriesOf (Headers.merge received m) name = _
    rw [entriesOf_merge (hs received rfl), hlower, mergedText?_eq_some_iff.2 ⟨hkept, htexts, rfl⟩]
    rfl

theorem entriesOf_apply_of_not_names (hs : s.HasLowerNames) (hn : ¬s.Names name) (m : TextMap) :
    entriesOf (s.apply m) name = entriesOf m name := by
  cases s with
  | set other value =>
    refine entriesOf_set_other m (Bool.eq_false_iff.2 fun hsame => hn ?_) value
    exact ⟨_, .set, hsame⟩
  | allowAll =>
    refine entriesOf_foldl_other (fun h hh => Bool.eq_false_iff.2 fun hsame => hn ?_) m
    exact ⟨h, .allowAll hh, hsame⟩
  | merge received =>
    show entriesOf (Headers.merge received m) name = _
    rw [entriesOf_merge (hs received rfl)]
    cases hmerged : mergedText? received (Ascii.lower name) with
    | none => rfl
    | some text =>
      -- a text is merged under the name, so the step does write it
      obtain ⟨hkept, htexts, rfl⟩ := mergedText?_eq_some_iff.1 hmerged
      exact absurd ⟨_, .merge hkept htexts, (Ascii.sameName_iff _ _).2 (Ascii.lower_lower name)⟩ hn

end Step

/-! ### Series of steps -/

def IsLastWrite (steps : List Step) (h : String × String) : Prop :=
  ∃ before step after, steps = before ++ step :: after ∧ step.Writes h ∧ ∀ s ∈ after, ¬s.Names h.1

def IsDistinct (m : TextMap) : Prop :=
  ∀ a ∈ m.entries, ∀ b ∈ m.entries, Ascii.sameName a.1 b.1 = true → a = b

section

variable {steps : List Step} {name : String}

theorem IsLastWrite.names {h : String × String} (hlast : IsLastWrite steps h) :
    ∃ s ∈ steps, s.Names h.1 := by
  obtain ⟨before, step, after, rfl, hw, -⟩ := hlast
  exact ⟨step, List.mem_append_right before List.mem_cons_self, hw.names⟩

theorem exists_isLastWrite (h : ∃ s ∈ steps, s.Names name) :
    ∃ w, IsLastWrite steps w ∧ Ascii.sameName w.1 name = true := by
  -- from the front: the rest decides as long as it writes the name at all
  induction steps with
  | nil =>
    obtain ⟨s, hs, -⟩ := h
    cases hs
  | cons first steps ih =>
    by_cases hlater : ∃ s ∈ steps, s.Names name
    · obtain ⟨w, ⟨before, step, after, rfl, hw, hafter⟩, hsame⟩ := ih hlater
      exact ⟨w, ⟨first :: before, step, after, rfl, hw, hafter⟩, hsame⟩
    · -- no later step writes the name, so this one does
      obtain ⟨s, hs, hn⟩ := h
      rcases List.mem_cons.1 hs with rfl | hs
      · obtain ⟨w, hw, hsame⟩ := hn
        refine ⟨w, ⟨[], s, steps, rfl, hw, fun t ht hnames => hlater ?_⟩, hsame⟩
        exact ⟨t, ht, hnames.congr hsame⟩
      · exact absurd ⟨s, hs, hn⟩ hlater

theorem isLastWrite_cons {s : Step} {h : String × String} :
    IsLastWrite (s :: steps) h ↔
      IsLastWrite steps h ∨ s.Writes h ∧ ∀ t ∈ steps, ¬t.Names h.1 := by
  constructor
  · rintro ⟨before, step, after, heq, hw, hafter⟩
    cases before with
    | nil =>
      obtain ⟨rfl, rfl⟩ := List.cons.inj heq
      exact .inr ⟨hw, hafter⟩
    | cons first before =>
      obtain ⟨rfl, rfl⟩ := List.cons.inj heq
      exact .inl ⟨before, step, after, rfl, hw, hafter⟩
  · rintro (⟨before, step, after, rfl, hw, hafter⟩ | ⟨hw, hafter⟩)
    · exact ⟨s :: before, step, after, rfl, hw, hafter⟩
    · exact ⟨[], s, steps, rfl, hw, hafter⟩

theorem entriesOf_run_of_not_names (hsteps : ∀ s ∈ steps, s.HasLowerNames)
    (hn : ∀ s ∈ steps, ¬s.Names name) (m : TextMap) : entriesOf (run m steps) name = entriesOf m name := by
  induction steps generalizing m with
  | nil => rfl
  | cons s steps ih =>
    have hrest := ih (fun t ht => hsteps t (List.mem_cons_of_mem s ht))
      (fun t ht => hn t (List.mem_cons_of_mem s ht)) (s.apply m)
    exact hrest.trans (s.entriesOf_apply_of_not_names (hsteps s List.mem_cons_self) (hn s List.mem_cons_self) m)

theorem entriesOf_run_of_isLastWrite (hsteps : ∀ s ∈ steps, s.HasLowerNames) {h : String × String}
    (hlast : IsLastWrite steps h) (m : TextMap) : entriesOf (run m steps) h.1 = [h] := by
  obtain ⟨before, step, after, rfl, hw, hafter⟩ := hlast
  have hstep : step.HasLowerNames := hsteps step (List.mem_append_right before List.mem_cons_self)
  have hrest : ∀ s ∈ after, s.HasLowerNames := fun s hs =>
    hsteps s (List.mem_append_right before (List.mem_cons_of_mem step hs))
  -- the step sets the entry, and those behind it leave it alone
  unfold run
  rw [List.foldl_append, List.foldl_cons]
  exact (entriesOf_run_of_not_names hrest hafter _).trans (step.entriesOf_apply_of_writes hstep hw _)

/-- A name that is written has one entry at the end, the last that was written. -/
theorem entriesOf_run_of_names (hsteps : ∀ s ∈ steps, s.HasLowerNames) (hn : ∃ s ∈ steps, s.Names name)
    (m : TextMap) : ∃ h, IsLastWrite steps h ∧ Ascii.sameName h.1 name = true ∧
      entriesOf (run m steps) name = [h] := by
  obtain ⟨h, hlast, hsame⟩ := exists_isLastWrite hn
  refine ⟨h, hlast, hsame, ?_⟩
  rw [← entriesOf_congr hsame]
  exact entriesOf_run_of_isLastWrite hsteps hlast m

theorem mem_run_iff (hsteps : ∀ s ∈ steps, s.HasLowerNames) {m : TextMap} {e : String × String} :
    e ∈ (run m steps).entries ↔
      IsLastWrite steps e ∨ e ∈ m.entries ∧ ∀ s ∈ steps, ¬s.Names e.1 := by
  by_cases hwritten : ∃ s ∈ steps, s.Names e.1
  · obtain ⟨w, hlast, -, hentries⟩ := entriesOf_run_of_names hsteps hwritten m
    constructor
    · intro he
      rw [mem_entries_iff, hentries, List.mem_singleton] at he
      exact .inl (he ▸ hlast)
    · rintro (he | ⟨-, hnone⟩)
      · rw [mem_entries_iff, entriesOf_run_of_isLastWrite hsteps he]
        exact List.mem_singleton_self e
      · obtain ⟨s, hs, hn⟩ := hwritten
        exact absurd hn (hnone s hs)
  · -- under a name that no step writes the map is as it was
    have hnone : ∀ s ∈ steps, ¬s.Names e.1 := fun s hs hn => hwritten ⟨s, hs, hn⟩
    rw [mem_entries_iff, entriesOf_run_of_not_names hsteps hnone, ← mem_entries_iff]
    constructor
    · exact fun he => .inr ⟨he, hnone⟩
    · rintro (he | ⟨he, -⟩)
      · exact absurd he.names hwritten
      · exact he

theorem IsDistinct.run (hsteps : ∀ s ∈ steps, s.HasLowerNames) {m : TextMap} (h : IsDistinct m) :
    IsDistinct (run m steps) := by
  intro a ha b hb hsame
  have hb' : b ∈ entriesOf (Headers.run m steps) a.1 := by
    rw [entriesOf_congr hsame]
    exact mem_entries_iff.1 hb
  by_cases hwritten : ∃ s ∈ steps, s.Names a.1
  · -- both are the one entry that was written last
    obtain ⟨w, -, -, hentries⟩ := entriesOf_run_of_names hsteps hwritten m
    rw [mem_entries_iff, hentries, List.mem_singleton] at ha
    rw [hentries, List.mem_singleton] at hb'
    rw [ha, hb']
  · -- both have been there from the start
    have hkeep := entriesOf_run_of_not_names hsteps (fun s hs hn => hwritten ⟨s, hs, hn⟩) m
    rw [mem_entries_iff, hkeep] at ha
    rw [hkeep] at hb'
    exact h a (List.mem_filter.1 ha).1 b (List.mem_filter.1 hb').1 hsame

/-- After any series of steps every name that was written stands in the map once, as the last step that
wrote it has spelled and set it, and that is what is found under it in every spelling. What no step wrote
stands there as before, and nothing else does. Names that differ in their case only are never added. -/
theorem last_write_stands
    (hsteps : ∀ received, Step.merge received ∈ steps → ∀ x ∈ received, Ascii.lower x.1 = x.1)
    (m : TextMap) :
    (∀ name, (∃ s ∈ steps, s.Names name) → ∃ h, IsLastWrite steps h ∧ Ascii.sameName h.1 name = true ∧
      entriesOf (run m steps) name = [h] ∧ (run m steps).lookup? name = some h.2) ∧
    (∀ e, e ∈ (run m steps).entries ↔
      IsLastWrite steps e ∨ e ∈ m.entries ∧ ∀ s ∈ steps, ¬s.Names e.1) ∧
    (IsDistinct m → IsDistinct (run m steps)) := by
  have hlower : ∀ s ∈ steps, s.HasLowerNames := fun s hs received heq => hsteps received (heq ▸ hs)
  refine ⟨fun name hwritten => ?_, fun e => mem_run_iff hlower, fun h => h.run hlower⟩
  obtain ⟨h, hlast, hsame, hentries⟩ := entriesOf_run_of_names hlower hwritten m
  refine ⟨h, hlast, hsame, hentries, ?_⟩
  rw [lookup?_eq_head?, hentries]
  rfl

end

/-- A map with a collision, and a reply that brings along a header that any site call needs. -/
theorem last_write_stands_merged :
    let m : TextMap := .ofList [("ETag", "0"), ("Keep", "k"), ("etag", "1")]
    let received : Http.Headers := [("etag", Utf8.encode "a"), ("te", Utf8.encode "b"),
      ("access-control-allow-origin", Utf8.encode "c"), ("etag", [255]), ("etag", Utf8.encode "d")]
    let steps : List Step := [.set "ETAG" "2", .allowAll, .merge received]
    (∀ received, Step.merge received ∈ steps → ∀ x ∈ received, Ascii.lower x.1 = x.1) ∧
      entriesOf (run m steps) "ETag" = [("etag", "a, d")] ∧
      entriesOf (run m steps) "Access-Control-Allow-Origin" = [("access-control-allow-origin", "c")] := by
  intro m received steps
  have hsteps : ∀ received, Step.merge received ∈ steps → ∀ x ∈ received, Ascii.lower x.1 = x.1 := by
    intro other hother
    obtain rfl : other = received := by simpa [steps] using hother
    decide +kernel
  obtain ⟨hnames, hmem, -⟩ := last_write_stands hsteps m
  -- what the reply brings along is written last, and so is all that stands under its name
  have hmerged : ∀ name spelling, isStripped name = false → texts received name ≠ [] →
      Ascii.sameName name spelling = true →
      entriesOf (run m steps) spelling = [(name, ", ".intercalate (texts received name))] := by
    intro name spelling hkept htexts hsame
    have hw : (Step.merge received).Writes (name, ", ".intercalate (texts received name)) :=
      .merge hkept htexts
    have hlast : IsLastWrite steps (name, ", ".intercalate (texts received name)) :=
      ⟨[.set "ETAG" "2", .allowAll], .merge received, [], rfl, hw, by simp⟩
    obtain ⟨h, -, -, hentries, -⟩ := hnames spelling ⟨_, by simp [steps], hw.names.congr hsame⟩
    have hstands := mem_entries_iff.1 ((hmem _).2 (.inl hlast))
    rw [entriesOf_congr hsame, hentries, List.mem_singleton] at hstands
    rw [hentries, hstands]
  refine ⟨hsteps, ?_, ?_⟩
  · exact (hmerged "etag" _ (by decide +kernel) (by decide +kernel) (by decide +kernel)).trans
      (by decide +kernel)
  · exact (hmerged "access-control-allow-origin" _ (by decide +kernel) (by decide +kernel)
      (by decide +kernel)).trans (by decide +kernel)

end Relay.Headers
