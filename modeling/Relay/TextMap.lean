/-!
Maps from texts to texts, in the order of their keys. The order is part of the type: two maps with
the same entries are equal, and listing one lists the keys in increasing order.
-/

namespace Relay

structure TextMap where
  entries : List (String × String)
  sorted : entries.Pairwise (fun a b => a.1 < b.1)

namespace TextMap

theorem ext {m n : TextMap} (h : m.entries = n.entries) : m = n := by
  cases m; cases n; cases h; rfl

instance : DecidableEq TextMap := fun m n =>
  decidable_of_iff (m.entries = n.entries) ⟨ext, fun h => h ▸ rfl⟩

def empty : TextMap := ⟨[], List.Pairwise.nil⟩

instance : Inhabited TextMap := ⟨empty⟩

def isEmpty (m : TextMap) : Bool := m.entries.isEmpty

def get? (m : TextMap) (key : String) : Option String :=
  (m.entries.find? (·.1 == key)).map (·.2)

/-- Puts an entry at its place in a sorted list, replacing the one with the same key. -/
def place (key value : String) : List (String × String) → List (String × String)
  | [] => [(key, value)]
  | (k, v) :: rest =>
    if key < k then (key, value) :: (k, v) :: rest
    else if key = k then (key, value) :: rest
    else (k, v) :: place key value rest

theorem mem_place {key value : String} {p : String × String} {l : List (String × String)}
    (h : p ∈ place key value l) : p = (key, value) ∨ p ∈ l := by
  induction l with
  | nil => simpa [place] using h
  | cons q rest ih =>
    obtain ⟨k, v⟩ := q
    rw [place] at h
    split at h
    · simpa using h
    · split at h
      · rcases List.mem_cons.1 h with h | h
        · exact .inl h
        · exact .inr (List.mem_cons_of_mem _ h)
      · rcases List.mem_cons.1 h with h | h
        · exact .inr (h ▸ List.mem_cons_self)
        · exact (ih h).imp_right (List.mem_cons_of_mem _)

theorem lt_of_not_lt_of_ne {a b : String} (h : ¬a < b) (hne : a ≠ b) : b < a := by
  apply Classical.byContradiction
  intro hb
  exact hne (String.le_antisymm (String.not_lt.1 hb) (String.not_lt.1 h))

theorem sorted_place (key value : String) {l : List (String × String)}
    (h : l.Pairwise (fun a b => a.1 < b.1)) :
    (place key value l).Pairwise (fun a b => a.1 < b.1) := by
  induction l with
  | nil => simp [place]
  | cons q rest ih =>
    obtain ⟨k, v⟩ := q
    have hrest := List.pairwise_cons.1 h
    rw [place]
    split
    · rename_i hlt
      refine List.pairwise_cons.2 ⟨fun p hp => ?_, h⟩
      rcases List.mem_cons.1 hp with rfl | hp
      · exact hlt
      · exact String.lt_trans hlt (hrest.1 p hp)
    · split
      · rename_i heq
        subst heq
        exact List.pairwise_cons.2 ⟨hrest.1, hrest.2⟩
      · rename_i hlt hne
        refine List.pairwise_cons.2 ⟨fun p hp => ?_, ih hrest.2⟩
        rcases mem_place hp with rfl | hp
        · exact lt_of_not_lt_of_ne hlt hne
        · exact hrest.1 p hp

def insert (m : TextMap) (key value : String) : TextMap :=
  ⟨place key value m.entries, sorted_place key value m.sorted⟩

def filterKeys (m : TextMap) (keep : String → Bool) : TextMap :=
  ⟨m.entries.filter (fun e => keep e.1), m.sorted.filter _⟩

def ofList (pairs : List (String × String)) : TextMap :=
  pairs.foldl (fun m p => m.insert p.1 p.2) empty

def toList (m : TextMap) : List (String × String) := m.entries

def size (m : TextMap) : Nat := m.entries.length

end Relay.TextMap
