import HealthWatch.Evaluation
/-!
# Gathering the entries

The entries of a report come from two passes: the tasks that reported are collected in the order in
which they ended, and then every selected check that is still missing gets an entry of its own.
`get?_gather` says that each selected check ends up with `finalEntry`, whatever the order of the
first pass, and `mem_keys_gather` that nothing else is entered.
-/

namespace HealthWatch

namespace CheckCourse

/-- The entry that a check ends up with in a report. -/
def finalEntry (total : Duration) (c : CheckCourse) : Outcome := c.entry?.getD (c.missed total)

end CheckCourse

namespace Evaluator

variable {total : Duration} {selected joined : List CheckCourse} {c : CheckCourse} {n : String}

/-! ## The second pass -/

/-- The second pass keeps the entries that it finds and adds one for the first check of each missing
name. -/
theorem get?_enterMissed (entries : NameMap Outcome) :
    (enterMissed total selected entries).get? n =
      (entries.get? n <|> (selected.find? fun c => c.check.name = n).map (·.missed total)) := by
  induction selected generalizing entries with
  | nil =>
    show entries.get? n = _
    cases entries.get? n <;> rfl
  | cons c cs ih =>
    show (enterMissed total cs (if entries.contains c.check.name then entries
      else entries.insert c.check.name (c.missed total))).get? n = _
    rw [ih, List.find?_cons]
    by_cases hn : c.check.name = n
    · subst hn
      cases hget : entries.get? c.check.name with
      | none => simp [NameMap.contains, hget]
      | some o => simp [NameMap.contains, hget]
    · have hne : n ≠ c.check.name := fun h => hn h.symm
      simp only [hn, decide_false]
      split
      · rfl
      · rw [NameMap.get?_insert, if_neg hne]

/-! ## Both passes -/

theorem mem_reportedPairs {o : Outcome} :
    (n, o) ∈ reportedPairs joined ↔ ∃ c ∈ joined, c.check.name = n ∧ c.entry? = some o := by
  unfold reportedPairs
  rw [List.mem_filterMap]
  refine exists_congr fun c => and_congr_right fun _ => ?_
  rw [Option.map_eq_some_iff]
  constructor
  · rintro ⟨o', ho, heq⟩
    cases heq
    exact ⟨rfl, ho⟩
  · rintro ⟨rfl, ho⟩
    exact ⟨o, ho, rfl⟩

theorem nodup_reportedPairs (h : (joined.map (·.check.name)).Nodup) :
    ((reportedPairs joined).map (·.1)).Nodup := by
  have hsub : ((reportedPairs joined).map (·.1)).Sublist (joined.map (·.check.name)) := by
    clear h
    unfold reportedPairs
    induction joined with
    | nil => simp
    | cons c cs ih =>
      rw [List.filterMap_cons, List.map_cons]
      cases c.entry? with
      | none => exact ih.cons _
      | some o => exact ih.cons_cons _
  exact h.sublist hsub

/-- Each selected check has its own entry, whatever the order in which the tasks were joined. -/
theorem get?_gather (hj : joined.Perm selected) (h : (selected.map (·.check.name)).Nodup)
    (hc : c ∈ selected) :
    (gather total selected joined).get? c.check.name = some (c.finalEntry total) := by
  have hjoined : (joined.map (·.check.name)).Nodup := (hj.map _).nodup_iff.2 h
  have hreported : (NameMap.ofList (reportedPairs joined)).get? c.check.name = c.entry? := by
    ext o
    rw [NameMap.get?_ofList_eq_some_iff (nodup_reportedPairs hjoined), mem_reportedPairs]
    constructor
    · rintro ⟨c', hc', hname, ho⟩
      have hfind := find?_of_nodup_map h (hj.subset hc')
      rw [hname, find?_of_nodup_map h hc] at hfind
      cases hfind
      exact ho
    · intro ho
      exact ⟨c, hj.symm.subset hc, rfl, ho⟩
  rw [gather, get?_enterMissed, hreported, find?_of_nodup_map h hc, CheckCourse.finalEntry]
  cases c.entry? <;> rfl

/-- The names of the entries are those of the selected checks. -/
theorem mem_keys_gather (hj : joined.Perm selected) (h : (selected.map (·.check.name)).Nodup) :
    n ∈ (gather total selected joined).keys ↔ n ∈ selected.map (·.check.name) := by
  rw [NameMap.mem_keys_iff]
  constructor
  · intro hsome
    rw [gather, get?_enterMissed] at hsome
    cases hrep : (NameMap.ofList (reportedPairs joined)).get? n with
    | some o =>
      have hjoined : (joined.map (·.check.name)).Nodup := (hj.map _).nodup_iff.2 h
      rw [NameMap.get?_ofList_eq_some_iff (nodup_reportedPairs hjoined), mem_reportedPairs] at hrep
      obtain ⟨c, hc, rfl, -⟩ := hrep
      exact List.mem_map.2 ⟨c, hj.subset hc, rfl⟩
    | none =>
      cases hfind : selected.find? (fun c => c.check.name = n) with
      | none => simp [hrep, hfind] at hsome
      | some c =>
        have hname : c.check.name = n := by simpa using List.find?_some hfind
        exact List.mem_map.2 ⟨c, List.mem_of_find?_eq_some hfind, hname⟩
  · intro hn
    obtain ⟨c, hc, rfl⟩ := List.mem_map.1 hn
    rw [get?_gather hj h hc]
    rfl

theorem get?_gather_of_notMem (hj : joined.Perm selected) (h : (selected.map (·.check.name)).Nodup)
    (hn : n ∉ selected.map (·.check.name)) : (gather total selected joined).get? n = none := by
  rw [← Option.not_isSome_iff_eq_none, ← NameMap.mem_keys_iff, mem_keys_gather hj h]
  exact hn

/-- Neither the order of the selected checks nor that in which their tasks were joined shows in the entries. -/
theorem gather_perm {selected' joined' : List CheckCourse} (hj : joined.Perm selected)
    (hj' : joined'.Perm selected') (hs : selected.Perm selected')
    (h : (selected.map (·.check.name)).Nodup) :
    gather total selected joined = gather total selected' joined' := by
  have h' : (selected'.map (·.check.name)).Nodup := (hs.map _).nodup_iff.1 h
  refine NameMap.ext fun n => ?_
  by_cases hn : n ∈ selected.map (·.check.name)
  · obtain ⟨c, hc, rfl⟩ := List.mem_map.1 hn
    rw [get?_gather hj h hc, get?_gather hj' h' (hs.subset hc)]
  · have hn' : n ∉ selected'.map (·.check.name) := fun hmem => hn ((hs.map _).symm.subset hmem)
    rw [get?_gather_of_notMem hj h hn, get?_gather_of_notMem hj' h' hn']

end Evaluator

end HealthWatch
