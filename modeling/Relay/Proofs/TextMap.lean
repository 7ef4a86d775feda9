import Mathlib.Data.List.Induction
import Relay.TextMap

/-!
What stands in a map from texts to texts. A map is determined by its entries, whatever was done to get
them there: an insertion changes what is found under one key, and a list of pairs gives every key the
value of the last pair that has it.
-/

namespace Relay.TextMap

variable {p : String × String → Bool} {key value : String} {l : List (String × String)}

/-! ### One entry among others -/

theorem filter_place_new (hnew : p (key, value) = true) (hl : ∀ e ∈ l, p e = false) :
    (place key value l).filter p = [(key, value)] := by
  induction l with
  | nil => exact List.filter_cons_of_pos hnew
  | cons q rest ih =>
    have hnone : (q :: rest).filter p = [] := by
      rw [List.filter_eq_nil_iff]
      intro e he
      rw [hl e he]
      exact Bool.false_ne_true
    have hq : ¬p q = true := by
      rw [hl q List.mem_cons_self]
      exact Bool.false_ne_true
    rw [place]
    split
    · rw [List.filter_cons_of_pos hnew, hnone]
    · split
      · rw [List.filter_cons_of_pos hnew]
        rw [List.filter_cons_of_neg hq] at hnone
        rw [hnone]
      · rw [List.filter_cons_of_neg hq]
        exact ih fun e he => hl e (List.mem_cons_of_mem q he)

theorem filter_place_other (h : ∀ v, p (key, v) = false) :
    (place key value l).filter p = l.filter p := by
  have hnew : ∀ v, ¬p (key, v) = true := by
    intro v
    rw [h v]
    exact Bool.false_ne_true
  induction l with
  | nil => exact List.filter_cons_of_neg (hnew value)
  | cons q rest ih =>
    obtain ⟨k, v⟩ := q
    rw [place]
    split
    · rw [List.filter_cons_of_neg (hnew value)]
    · split
      · rename_i heq
        subst heq
        rw [List.filter_cons_of_neg (hnew value), List.filter_cons_of_neg (hnew v)]
      · rw [List.filter_cons, List.filter_cons, ih]

theorem nodup_entries (m : TextMap) : m.entries.Nodup := by
  refine m.sorted.imp fun hlt heq => ?_
  rw [heq] at hlt
  exact String.lt_irrefl _ hlt

theorem nodup_keys (m : TextMap) : (m.entries.map (·.1)).Nodup := by
  apply List.pairwise_map.2
  refine m.sorted.imp fun hlt heq => ?_
  rw [heq] at hlt
  exact String.lt_irrefl _ hlt

/-- The order of the entries follows from their keys, so it is enough to compare members. -/
theorem ext_mem {m n : TextMap} (h : ∀ e, e ∈ m.entries ↔ e ∈ n.entries) : m = n := by
  have hperm : m.entries.Perm n.entries :=
    (List.perm_ext_iff_of_nodup m.nodup_entries n.nodup_entries).2 h
  refine ext (hperm.eq_of_pairwise (fun a b _ _ hab hba => ?_) m.sorted n.sorted)
  exact absurd (String.lt_trans hab hba) (String.lt_irrefl _)

/-! ### What is found under a key -/

theorem find?_place_self : (place key value l).find? (·.1 == key) = some (key, value) := by
  induction l with
  | nil => exact List.find?_cons_of_pos (beq_self_eq_true key)
  | cons q rest ih =>
    obtain ⟨k, v⟩ := q
    rw [place]
    split
    · exact List.find?_cons_of_pos (beq_self_eq_true key)
    · split
      · exact List.find?_cons_of_pos (beq_self_eq_true key)
      · rename_i hne
        rw [List.find?_cons_of_neg (by simpa using Ne.symm hne)]
        exact ih

theorem get?_insert (m : TextMap) (key value k : String) :
    (m.insert key value).get? k = if key = k then some value else m.get? k := by
  unfold get? insert
  by_cases heq : key = k
  · subst heq
    rw [if_pos rfl, find?_place_self]
    rfl
  · have hother : ∀ v : String, ((key, v).1 == k) = false := fun _ => beq_false_of_ne heq
    rw [if_neg heq, ← List.head?_filter, ← List.head?_filter,
      filter_place_other (p := fun e => e.1 == k) hother]

theorem get?_ofList (pairs : List (String × String)) (k : String) :
    (ofList pairs).get? k = (pairs.filter (·.1 == k)).getLast?.map (·.2) := by
  -- from the end: the last pair either has the key, or leaves what stands under it alone
  induction pairs using List.reverseRecOn with
  | nil => rfl
  | append_singleton pairs last ih =>
    have hinsert : ofList (pairs ++ [last]) = (ofList pairs).insert last.1 last.2 := by
      unfold ofList
      rw [List.foldl_append]
      rfl
    rw [hinsert, get?_insert, List.filter_append]
    by_cases heq : last.1 = k
    · rw [if_pos heq, List.filter_cons_of_pos (by simpa using heq), List.filter_nil,
        List.getLast?_concat]
      rfl
    · rw [if_neg heq, List.filter_cons_of_neg (by simpa using heq), List.filter_nil, List.append_nil]
      exact ih

/-! ### Maps of lists -/

theorem mem_ofList {pairs : List (String × String)} {e : String × String}
    (h : e ∈ (ofList pairs).entries) : e ∈ pairs := by
  have hfold : ∀ (l : List (String × String)) (m : TextMap),
      e ∈ (l.foldl (fun m p => m.insert p.1 p.2) m).entries → e ∈ m.entries ∨ e ∈ l := by
    intro l
    induction l with
    | nil => exact fun m he => .inl he
    | cons p l ih =>
      intro m he
      rcases ih _ he with he | he
      · rcases mem_place he with rfl | he
        · exact .inr List.mem_cons_self
        · exact .inl he
      · exact .inr (List.mem_cons_of_mem p he)
  rcases hfold pairs .empty h with hempty | hmem
  · cases hempty
  · exact hmem

theorem place_last {e : String × String} (h : ∀ x ∈ l, x.1 < e.1) : place e.1 e.2 l = l ++ [e] := by
  induction l with
  | nil => rfl
  | cons x l ih =>
    have hx : x.1 < e.1 := h x List.mem_cons_self
    have hnot : ¬e.1 < x.1 := fun hlt => String.lt_irrefl _ (String.lt_trans hlt hx)
    have hne : ¬e.1 = x.1 := fun heq => String.lt_irrefl _ (heq ▸ hx)
    rw [place, if_neg hnot, if_neg hne, ih fun y hy => h y (List.mem_cons_of_mem x hy)]
    rfl

theorem ofList_entries (m : TextMap) : ofList m.entries = m := by
  -- from the front: every entry goes behind those that are there
  have hfold : ∀ (back : List (String × String)) (front : TextMap),
      (front.entries ++ back).Pairwise (fun a b => a.1 < b.1) →
      (back.foldl (fun m p => m.insert p.1 p.2) front).entries = front.entries ++ back := by
    intro back
    induction back with
    | nil => exact fun front _ => (List.append_nil _).symm
    | cons e back ih =>
      intro front hsorted
      have hlast : (front.insert e.1 e.2).entries = front.entries ++ [e] := by
        apply place_last
        intro x hx
        exact (List.pairwise_append.1 hsorted).2.2 x hx e List.mem_cons_self
      rw [List.foldl_cons, ih, hlast, List.append_assoc]
      · rfl
      · rw [hlast, List.append_assoc]
        exact hsorted
  apply ext
  exact hfold m.entries .empty m.sorted

end Relay.TextMap
