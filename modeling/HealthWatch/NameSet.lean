/-!
# Sets of names

A finite set of names (check names, tags), kept as the strictly increasing list of its members.
Names are ordered by code point, which is also the order of their UTF-8 bytes. `NameSet.ext` says
that a set is determined by its members, whatever the order in which they were inserted.
-/

namespace HealthWatch

/-- A finite set of names, listed in strictly increasing order. -/
structure NameSet where
  toList : List String
  sorted : toList.Pairwise (· < ·)
  deriving DecidableEq

namespace NameSet

instance : Membership String NameSet := ⟨fun s n => n ∈ s.toList⟩

instance (n : String) (s : NameSet) : Decidable (n ∈ s) :=
  inferInstanceAs (Decidable (n ∈ s.toList))

theorem mem_def {n : String} {s : NameSet} : n ∈ s ↔ n ∈ s.toList := Iff.rfl

def empty : NameSet := ⟨[], .nil⟩

instance : EmptyCollection NameSet := ⟨empty⟩
instance : Inhabited NameSet := ⟨empty⟩

/-- The list with one more name, in its place. -/
def insertSorted (n : String) : List String → List String
  | [] => [n]
  | m :: ms =>
    if n < m then n :: m :: ms
    else if n = m then m :: ms
    else m :: insertSorted n ms

theorem mem_insertSorted {n k : String} {l : List String} :
    k ∈ insertSorted n l ↔ k = n ∨ k ∈ l := by
  induction l with
  | nil => simp [insertSorted]
  | cons m ms ih =>
    unfold insertSorted
    split
    · simp
    · split
      · next h => subst h; simp
      · simp only [List.mem_cons, ih]; grind

theorem sorted_insertSorted (n : String) {l : List String} (h : l.Pairwise (· < ·)) :
    (insertSorted n l).Pairwise (· < ·) := by
  induction l with
  | nil => simp [insertSorted]
  | cons m ms ih =>
    rw [List.pairwise_cons] at h
    unfold insertSorted
    split
    · next hlt =>
      refine List.pairwise_cons.2 ⟨fun k hk => ?_, List.pairwise_cons.2 h⟩
      rcases List.mem_cons.1 hk with rfl | hk
      · exact hlt
      · exact String.lt_trans hlt (h.1 k hk)
    · split
      · exact List.pairwise_cons.2 h
      · next hlt hne =>
        refine List.pairwise_cons.2 ⟨fun k hk => ?_, ih h.2⟩
        rcases mem_insertSorted.1 hk with rfl | hk
        · grind
        · exact h.1 k hk

def insert (s : NameSet) (n : String) : NameSet :=
  ⟨insertSorted n s.toList, sorted_insertSorted n s.sorted⟩

theorem mem_insert {s : NameSet} {n k : String} : k ∈ s.insert n ↔ k = n ∨ k ∈ s :=
  mem_insertSorted

/-- The set with all names of a list added. -/
def insertMany (s : NameSet) (names : List String) : NameSet := names.foldl insert s

theorem mem_insertMany {names : List String} {s : NameSet} {k : String} :
    k ∈ s.insertMany names ↔ k ∈ s ∨ k ∈ names := by
  induction names generalizing s with
  | nil => simp [insertMany]
  | cons n ns ih =>
    have : (s.insertMany (n :: ns)) = (s.insert n).insertMany ns := rfl
    rw [this, ih, mem_insert]; grind

def ofList (names : List String) : NameSet := empty.insertMany names

theorem mem_ofList {names : List String} {k : String} : k ∈ ofList names ↔ k ∈ names := by
  rw [ofList, mem_insertMany]; simp [mem_def, empty]

def size (s : NameSet) : Nat := s.toList.length

/-- Whether two sets have a name in common. -/
def intersects (s t : NameSet) : Bool := s.toList.any (· ∈ t)

theorem intersects_iff {s t : NameSet} : s.intersects t = true ↔ ∃ n, n ∈ s ∧ n ∈ t := by
  simp [intersects, mem_def]

/-- A set is determined by its members. -/
theorem ext {s t : NameSet} (h : ∀ n, n ∈ s ↔ n ∈ t) : s = t := by
  obtain ⟨l, hl⟩ := s
  obtain ⟨m, hm⟩ := t
  have : l = m := by
    refine @List.Perm.eq_of_pairwise _ (fun a b => a < b) _ _ ?_ hl hm ?_
    · intro a b _ _ hab hba; exact absurd (String.lt_trans hab hba) (String.lt_irrefl a)
    · refine (List.perm_ext_iff_of_nodup ?_ ?_).2 h
      · exact hl.imp fun hab => by grind
      · exact hm.imp fun hab => by grind
  subst this; rfl

theorem ofList_toList (s : NameSet) : ofList s.toList = s := ext fun _ => mem_ofList

end NameSet

end HealthWatch
