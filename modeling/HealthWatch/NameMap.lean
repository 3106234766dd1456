/-!
# Maps keyed by names

A finite map from names to values, kept as the list of its pairs in strictly increasing order of
names. `get?_insert` and `get?_erase` say what writing and removing do to a look-up, and
`NameMap.ext` that a map is determined by its look-ups, whatever the order of the writes.
-/

namespace HealthWatch

/-- A finite map from names to values, listed in strictly increasing order of names. -/
structure NameMap (α : Type) where
  toList : List (String × α)
  sorted : toList.Pairwise (fun a b => a.1 < b.1)

namespace NameMap

variable {α β : Type}

/-- The map without entries. -/
def empty : NameMap α := ⟨[], .nil⟩

instance : EmptyCollection (NameMap α) := ⟨empty⟩
instance : Inhabited (NameMap α) := ⟨empty⟩

/-- The names that have a value, in increasing order. -/
def keys (m : NameMap α) : List String := m.toList.map (·.1)

/-- The values, in the order of their names. -/
def values (m : NameMap α) : List α := m.toList.map (·.2)

def size (m : NameMap α) : Nat := m.toList.length

def get? (m : NameMap α) (n : String) : Option α := m.toList.lookup n

/-- Whether a name has a value. -/
def contains (m : NameMap α) (n : String) : Bool := (m.get? n).isSome

/-! ## Sorted lists of pairs -/

/-- The list of pairs with `n` bound to `v`. -/
def insertSorted (n : String) (v : α) : List (String × α) → List (String × α)
  | [] => [(n, v)]
  | p :: ps =>
    if n < p.1 then (n, v) :: p :: ps
    else if n = p.1 then (n, v) :: ps
    else p :: insertSorted n v ps

theorem mem_keys_insertSorted {n k : String} {v : α} {l : List (String × α)} :
    k ∈ (insertSorted n v l).map (·.1) ↔ k = n ∨ k ∈ l.map (·.1) := by
  induction l with
  | nil => simp [insertSorted]
  | cons p ps ih =>
    unfold insertSorted
    split
    · simp
    · split
      · next h => simp [h]
      · simp only [List.map_cons, List.mem_cons, ih]; grind

theorem sorted_insertSorted (n : String) (v : α) {l : List (String × α)}
    (h : l.Pairwise (fun a b => a.1 < b.1)) :
    (insertSorted n v l).Pairwise (fun a b => a.1 < b.1) := by
  induction l with
  | nil => simp [insertSorted]
  | cons p ps ih =>
    rw [List.pairwise_cons] at h
    unfold insertSorted
    split
    · next hlt =>
      refine List.pairwise_cons.2 ⟨fun k hk => ?_, List.pairwise_cons.2 h⟩
      rcases List.mem_cons.1 hk with rfl | hk
      · exact hlt
      · exact String.lt_trans hlt (h.1 k hk)
    · split
      · next heq => exact List.pairwise_cons.2 ⟨fun k hk => heq ▸ h.1 k hk, h.2⟩
      · next hlt hne =>
        refine List.pairwise_cons.2 ⟨fun k hk => ?_, ih h.2⟩
        have hmem : k.1 ∈ (insertSorted n v ps).map (·.1) := List.mem_map_of_mem hk
        rcases mem_keys_insertSorted.1 hmem with hk | hk
        · grind
        · obtain ⟨q, hq, hqk⟩ := List.mem_map.1 hk
          exact hqk ▸ h.1 q hq

theorem lookup_insertSorted (n k : String) (v : α) (l : List (String × α)) :
    (insertSorted n v l).lookup k = if k = n then some v else l.lookup k := by
  induction l with
  | nil => simp only [insertSorted, List.lookup_cons, List.lookup_nil]; grind
  | cons p ps ih =>
    obtain ⟨m, w⟩ := p
    unfold insertSorted
    split
    · simp only [List.lookup_cons]; grind
    · split
      · simp only [List.lookup_cons]; grind
      · simp only [List.lookup_cons, ih]; grind

/-- A pair of a sorted list is found by its name. -/
theorem lookup_eq_some_iff {l : List (String × α)} (h : l.Pairwise (fun a b => a.1 < b.1))
    {n : String} {v : α} : l.lookup n = some v ↔ (n, v) ∈ l := by
  induction l with
  | nil => simp
  | cons p ps ih =>
    rw [List.pairwise_cons] at h
    obtain ⟨m, w⟩ := p
    rw [List.lookup_cons, List.mem_cons]
    by_cases hnm : n = m
    · subst hnm
      constructor
      · intro hw; left; simpa using hw.symm
      · rintro (hw | hw)
        · simp_all
        · exact absurd (h.1 _ hw) (String.lt_irrefl n)
    · have : (n == m) = false := by simpa using hnm
      rw [this]; simp only [ih h.2, Prod.mk.injEq, hnm, false_and, false_or]

/-! ## Writing and removing -/

/-- The map with `n` bound to `v`; an earlier value of `n` is replaced. -/
def insert (m : NameMap α) (n : String) (v : α) : NameMap α :=
  ⟨insertSorted n v m.toList, sorted_insertSorted n v m.sorted⟩

@[simp] theorem get?_insert (m : NameMap α) (n k : String) (v : α) :
    (m.insert n v).get? k = if k = n then some v else m.get? k :=
  lookup_insertSorted n k v m.toList

@[simp] theorem get?_empty (n : String) : (empty : NameMap α).get? n = none := rfl

/-- The map of the pairs of a list, later pairs replacing earlier ones. -/
def ofList (pairs : List (String × α)) : NameMap α :=
  pairs.foldl (fun m p => m.insert p.1 p.2) empty

theorem mem_insertSorted {n : String} {v : α} {l : List (String × α)} {p : String × α}
    (h : p ∈ insertSorted n v l) : p = (n, v) ∨ p ∈ l := by
  induction l with
  | nil => simpa [insertSorted] using h
  | cons q qs ih =>
    unfold insertSorted at h
    split at h
    · simpa using h
    · split at h
      · rcases List.mem_cons.1 h with h | h
        · exact .inl h
        · exact .inr (List.mem_cons_of_mem _ h)
      · rcases List.mem_cons.1 h with h | h
        · exact .inr (h ▸ List.mem_cons_self)
        · exact (ih h).imp_right (List.mem_cons_of_mem _)

/-- A map made from a list holds pairs of that list only. -/
theorem mem_of_mem_ofList {pairs : List (String × α)} {p : String × α}
    (h : p ∈ (ofList pairs).toList) : p ∈ pairs := by
  have key : ∀ (l : List (String × α)) (m : NameMap α),
      p ∈ (l.foldl (fun m q => m.insert q.1 q.2) m).toList → p ∈ l ∨ p ∈ m.toList := by
    intro l
    induction l with
    | nil => intro m hm; exact .inr hm
    | cons q qs ih =>
      intro m hm
      rcases ih _ hm with hm | hm
      · exact .inl (List.mem_cons_of_mem _ hm)
      · rcases mem_insertSorted hm with rfl | hm
        · exact .inl List.mem_cons_self
        · exact .inr hm
  rcases key pairs empty h with h | h
  · exact h
  · cases h

/-- A map made from pairs of different names holds each of them. -/
theorem get?_ofList_eq_some_iff {pairs : List (String × α)} (h : (pairs.map (·.1)).Nodup)
    {n : String} {v : α} : (ofList pairs).get? n = some v ↔ (n, v) ∈ pairs := by
  have key : ∀ (l : List (String × α)) (m : NameMap α), (l.map (·.1)).Nodup →
      ((l.foldl (fun m q => m.insert q.1 q.2) m).get? n = some v ↔
        (n, v) ∈ l ∨ (n ∉ l.map (·.1) ∧ m.get? n = some v)) := by
    intro l
    induction l with
    | nil => intro m _; simp
    | cons q qs ih =>
      intro m hl
      rw [List.map_cons, List.nodup_cons] at hl
      rw [List.foldl_cons, ih _ hl.2, get?_insert]
      by_cases hn : n = q.1
      · subst hn
        have hv : (q.1, v) ∉ qs := fun hm => hl.1 (List.mem_map.2 ⟨_, hm, rfl⟩)
        simp [hv, hl.1, Prod.ext_iff, eq_comm]
      · simp [hn, Prod.ext_iff]
  exact (key pairs empty h).trans (by simp)

/-- The entries whose name and value pass a test. -/
def filter (m : NameMap α) (keep : String → α → Bool) : NameMap α :=
  ⟨m.toList.filter (fun p => keep p.1 p.2), m.sorted.filter _⟩

/-- The map without `n`. -/
def erase (m : NameMap α) (n : String) : NameMap α := m.filter fun k _ => k ≠ n

theorem get?_eq_some_iff {m : NameMap α} {n : String} {v : α} :
    m.get? n = some v ↔ (n, v) ∈ m.toList := lookup_eq_some_iff m.sorted

theorem get?_filter (m : NameMap α) (keep : String → α → Bool) (n : String) :
    (m.filter keep).get? n = (m.get? n).filter (keep n) := by
  ext v
  rw [get?_eq_some_iff, Option.filter_eq_some_iff, get?_eq_some_iff]
  simp [filter]

@[simp] theorem get?_erase (m : NameMap α) (n k : String) :
    (m.erase n).get? k = if k = n then none else m.get? k := by
  rw [erase, get?_filter]
  by_cases h : k = n
  · simp [h]
  · cases m.get? k <;> simp [h]

def map (m : NameMap α) (f : String → α → β) : NameMap β where
  toList := m.toList.map fun p => (p.1, f p.1 p.2)
  sorted := by
    rw [List.pairwise_map]
    exact m.sorted

theorem keys_map (m : NameMap α) (f : String → α → β) : (m.map f).keys = m.keys := by
  simp [keys, map]

theorem map_id (m : NameMap α) : (m.map fun _ => id) = m := by
  obtain ⟨l, h⟩ := m
  simp [map]

theorem get?_map (m : NameMap α) (f : String → α → β) (n : String) :
    (m.map f).get? n = (m.get? n).map (f n) := by
  ext v
  rw [get?_eq_some_iff, Option.map_eq_some_iff]
  simp only [map, List.mem_map, Prod.mk.injEq, get?_eq_some_iff]
  constructor
  · rintro ⟨⟨k, w⟩, hw, rfl, rfl⟩; exact ⟨w, hw, rfl⟩
  · rintro ⟨w, hw, rfl⟩; exact ⟨(n, w), hw, rfl, rfl⟩

/-- A map is determined by its look-ups. -/
theorem ext {m m' : NameMap α} (h : ∀ n, m.get? n = m'.get? n) : m = m' := by
  obtain ⟨l, hl⟩ := m
  obtain ⟨l', hl'⟩ := m'
  have : l = l' := by
    refine @List.Perm.eq_of_pairwise _ (fun a b => a.1 < b.1) _ _ ?_ hl hl' ?_
    · intro a b _ _ hab hba; exact absurd (String.lt_trans hab hba) (String.lt_irrefl a.1)
    · refine (List.perm_ext_iff_of_nodup ?_ ?_).2 fun p => ?_
      · exact hl.imp fun hab => by grind
      · exact hl'.imp fun hab => by grind
      · rw [← lookup_eq_some_iff hl, ← lookup_eq_some_iff hl']
        have hp : l.lookup p.1 = l'.lookup p.1 := h p.1
        rw [hp]
  subst this; rfl

theorem mem_keys_iff {m : NameMap α} {n : String} : n ∈ m.keys ↔ (m.get? n).isSome := by
  rw [Option.isSome_iff_exists]
  simp only [get?_eq_some_iff, keys, List.mem_map]
  constructor
  · rintro ⟨p, hp, rfl⟩; exact ⟨p.2, hp⟩
  · rintro ⟨v, hv⟩; exact ⟨(n, v), hv, rfl⟩

theorem mem_values_iff {m : NameMap α} {v : α} : v ∈ m.values ↔ ∃ n, m.get? n = some v := by
  simp only [get?_eq_some_iff, values, List.mem_map]
  constructor
  · rintro ⟨p, hp, rfl⟩; exact ⟨p.1, hp⟩
  · rintro ⟨n, hn⟩; exact ⟨(n, v), hn, rfl⟩

theorem nodup_keys (m : NameMap α) : m.keys.Nodup := by
  have hne : m.toList.Pairwise (fun a b => a.1 ≠ b.1) := by
    refine m.sorted.imp ?_
    intro a b hab heq
    exact String.lt_irrefl b.1 (heq ▸ hab)
  exact List.pairwise_map.2 hne

theorem ofList_toList (m : NameMap α) : ofList m.toList = m :=
  ext fun n => Option.ext fun v => by
    rw [get?_ofList_eq_some_iff m.nodup_keys, get?_eq_some_iff]

end NameMap

end HealthWatch
