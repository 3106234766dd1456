/-!
# Cutting a text at a character

A text is cut at the first or at the last occurrence of a character, or into the fields between
all of them. The character itself belongs to no part. `stripSuffix?` takes a given ending off a text.
-/

namespace HealthWatch.Text

/-- The parts before and after the first occurrence of `c`. -/
def cutFirst (c : Char) : List Char → Option (List Char × List Char)
  | [] => none
  | d :: ds => if d = c then some ([], ds) else (cutFirst c ds).map fun p => (d :: p.1, p.2)

/-- The parts before and after the last occurrence of `c`. -/
def cutLast (c : Char) : List Char → Option (List Char × List Char)
  | [] => none
  | d :: ds =>
    match cutLast c ds with
    | some p => some (d :: p.1, p.2)
    | none => if d = c then some ([], ds) else none

/-- The fields of a text that `c` separates; there is always at least one. -/
def fields (c : Char) : List Char → List (List Char)
  | [] => [[]]
  | d :: ds =>
    if d = c then [] :: fields c ds
    else
      match fields c ds with
      | [] => [[d]]
      | f :: fs => (d :: f) :: fs

/-- The text before an ending, none when the text does not end so. -/
def stripSuffix? (suffix cs : List Char) : Option (List Char) :=
  if suffix.isSuffixOf cs then some (cs.take (cs.length - suffix.length)) else none

theorem stripSuffix?_eq_some_iff {suffix cs a : List Char} :
    stripSuffix? suffix cs = some a ↔ cs = a ++ suffix := by
  unfold stripSuffix?
  constructor
  · intro h
    split at h
    · next hsuffix =>
      obtain ⟨b, rfl⟩ := List.isSuffixOf_iff_suffix.1 hsuffix
      rw [List.length_append, Nat.add_sub_cancel, List.take_left] at h
      rw [Option.some.inj h]
    · cases h
  · rintro rfl
    rw [if_pos (List.isSuffixOf_iff_suffix.2 (List.suffix_append a suffix)), List.length_append,
      Nat.add_sub_cancel, List.take_left]

theorem cutFirst_eq_some_iff {c : Char} {s a b : List Char} :
    cutFirst c s = some (a, b) ↔ s = a ++ c :: b ∧ c ∉ a := by
  induction s generalizing a with
  | nil => simp [cutFirst]
  | cons d ds ih =>
    unfold cutFirst
    by_cases h : d = c
    · subst h
      simp only [↓reduceIte, Option.some.injEq, Prod.mk.injEq]
      constructor
      · rintro ⟨rfl, rfl⟩; simp
      · rintro ⟨heq, hn⟩
        cases a with
        | nil => simpa using heq
        | cons x xs => simp at heq hn; exact absurd heq.1 hn.1
    · simp only [h, ↓reduceIte, Option.map_eq_some_iff, Prod.mk.injEq]
      constructor
      · rintro ⟨⟨x, y⟩, hxy, rfl, rfl⟩
        obtain ⟨rfl, hn⟩ := ih.1 hxy
        exact ⟨rfl, by simp [hn, Ne.symm h]⟩
      · rintro ⟨heq, hn⟩
        cases a with
        | nil => simp at heq; exact absurd heq.1 h
        | cons x xs =>
          simp at heq hn
          obtain ⟨rfl, rfl⟩ := heq
          exact ⟨(xs, b), ih.2 ⟨rfl, hn.2⟩, rfl, rfl⟩

theorem cutFirst_eq_none_iff {c : Char} {s : List Char} : cutFirst c s = none ↔ c ∉ s := by
  induction s with
  | nil => simp [cutFirst]
  | cons d ds ih =>
    unfold cutFirst
    by_cases h : d = c
    · simp [h]
    · simp [h, ih, Ne.symm h]

theorem cutLast_eq_none_iff {c : Char} {s : List Char} : cutLast c s = none ↔ c ∉ s := by
  induction s with
  | nil => simp [cutLast]
  | cons d ds ih =>
    unfold cutLast
    cases h : cutLast c ds with
    | some p =>
      have : c ∈ ds := by
        apply Classical.byContradiction
        intro hn; rw [ih.2 hn] at h; simp at h
      simp [this]
    | none =>
      have hn := ih.1 h
      by_cases hd : d = c
      · simp [hd]
      · simp [hd, hn, Ne.symm hd]

theorem cutLast_eq_some_iff {c : Char} {s a b : List Char} :
    cutLast c s = some (a, b) ↔ s = a ++ c :: b ∧ c ∉ b := by
  induction s generalizing a b with
  | nil => simp [cutLast]
  | cons d ds ih =>
    unfold cutLast
    cases h : cutLast c ds with
    | some p =>
      obtain ⟨x, y⟩ := p
      obtain ⟨rfl, hn⟩ := ih.1 h
      simp only [Option.some.injEq, Prod.mk.injEq]
      constructor
      · rintro ⟨rfl, rfl⟩; exact ⟨rfl, hn⟩
      · rintro ⟨heq, hb⟩
        cases a with
        | nil => simp at heq; exact absurd (by simp [← heq.2]) hb
        | cons e es =>
          simp at heq
          have := ih.2 ⟨heq.2, hb⟩
          rw [h] at this
          simp at this
          exact ⟨by rw [heq.1, this.1], this.2⟩
    | none =>
      have hn := cutLast_eq_none_iff.1 h
      by_cases hd : d = c
      · subst hd
        simp only [↓reduceIte, Option.some.injEq, Prod.mk.injEq]
        constructor
        · rintro ⟨rfl, rfl⟩; exact ⟨rfl, hn⟩
        · rintro ⟨heq, hb⟩
          cases a with
          | nil => simpa using heq
          | cons e es => simp at heq; exact absurd (by simp [heq.2]) hn
      · simp only [hd, ↓reduceIte, reduceCtorEq, false_iff, not_and]
        intro heq
        cases a with
        | nil => simp at heq; exact absurd heq.1 hd
        | cons e es => simp at heq; exact absurd (by simp [heq.2]) hn

theorem fields_ne_nil (c : Char) (s : List Char) : fields c s ≠ [] := by
  cases s with
  | nil => exact List.cons_ne_nil _ _
  | cons d ds =>
    unfold fields
    split
    · exact List.cons_ne_nil _ _
    · split <;> exact List.cons_ne_nil _ _

theorem fields_of_notMem {c : Char} {s : List Char} (h : c ∉ s) : fields c s = [s] := by
  induction s with
  | nil => rfl
  | cons d ds ih =>
    rw [List.mem_cons, not_or] at h
    rw [fields, if_neg (Ne.symm h.1), ih h.2]

theorem fields_append_cons {c : Char} {a : List Char} (h : c ∉ a) (b : List Char) :
    fields c (a ++ c :: b) = a :: fields c b := by
  induction a with
  | nil => rw [List.nil_append, fields, if_pos rfl]
  | cons d ds ih =>
    rw [List.mem_cons, not_or] at h
    rw [List.cons_append, fields, if_neg (Ne.symm h.1), ih h.2]

theorem notMem_of_mem_fields {c : Char} {s f : List Char} (h : f ∈ fields c s) : c ∉ f := by
  induction s generalizing f with
  | nil =>
    obtain rfl := List.mem_singleton.1 h
    exact List.not_mem_nil
  | cons d ds ih =>
    rw [fields] at h
    split at h
    · obtain rfl | h := List.mem_cons.1 h
      · exact List.not_mem_nil
      · exact ih h
    · next hd =>
      split at h
      · next hnil => exact absurd hnil (fields_ne_nil c ds)
      · next g gs hds =>
        rw [hds] at ih
        obtain rfl | h := List.mem_cons.1 h
        · rw [List.mem_cons, not_or]
          exact ⟨Ne.symm hd, ih List.mem_cons_self⟩
        · exact ih (List.mem_cons_of_mem g h)

theorem eq_of_fields_eq_singleton {c : Char} {s f : List Char} (h : fields c s = [f]) : s = f := by
  induction s generalizing f with
  | nil => exact (List.cons.inj h).1
  | cons d ds ih =>
    rw [fields] at h
    split at h
    · obtain ⟨-, hnil⟩ := List.cons.inj h
      exact absurd hnil (fields_ne_nil c ds)
    · split at h
      · next hnil => exact absurd hnil (fields_ne_nil c ds)
      · next g gs hds =>
        obtain ⟨rfl, rfl⟩ := List.cons.inj h
        rw [ih hds]

/-- The first of several fields ends at the first separator. -/
theorem eq_of_fields_eq_cons {c : Char} {s f g : List Char} {fs : List (List Char)}
    (h : fields c s = f :: g :: fs) : ∃ rest, s = f ++ c :: rest ∧ fields c rest = g :: fs := by
  induction s generalizing f with
  | nil => cases h
  | cons d ds ih =>
    rw [fields] at h
    split at h
    · next hd =>
      obtain ⟨rfl, hrest⟩ := List.cons.inj h
      exact ⟨ds, by rw [hd, List.nil_append], hrest⟩
    · split at h
      · next hnil => exact absurd hnil (fields_ne_nil c ds)
      · next f' fs' hds =>
        obtain ⟨rfl, rfl⟩ := List.cons.inj h
        obtain ⟨rest, rfl, hrest⟩ := ih hds
        exact ⟨rest, rfl, hrest⟩

end HealthWatch.Text
