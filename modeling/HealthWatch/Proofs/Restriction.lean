import HealthWatch.Proofs.Deadlines
/-!
# Fewer checks

The courses of the checks of an evaluation are independent of each other, so leaving out some of them changes
nothing for the others but the instant at which all are over. `restriction_of_completed` compares an evaluation
of some checks with one of all of them; `entry_eq_of_completed` compares the entries of one check in any
two evaluations, whatever runs beside it.
-/

namespace HealthWatch

namespace EvaluationLimits

/-- What leaves an evaluation alone until an instant leaves it alone until any earlier one. -/
theorem Leave.mono {o : EvaluationLimits} {f g : Nat} (h : o.Leave f) (hg : g ≤ f) : o.Leave g where
  notBefore := h.notBefore
  deadline d hd := Nat.lt_of_le_of_lt hg (h.deadline d hd)
  cancelAt c hc := Nat.lt_of_le_of_lt hg (h.cancelAt c hc)

end EvaluationLimits

namespace Evaluator

variable {e : Evaluator} {counts : CallCounts} {now now' : Int} {s s' : Selector}
  {o o' : EvaluationLimits} {r : Registration} {f : Nat}

/-! ## When fewer checks are over -/

theorem select_subset_all : e.registry.select s ⊆ e.registry.select .all := by
  intro r hr
  exact List.mem_filter.2 ⟨(List.mem_filter.1 hr).1, rfl⟩

/-- Some of the checks have ended by themselves no later than all of them. -/
theorem lastOwnEnd_le_all (h : e.lastOwnEnd counts .all = some f) :
    ∃ n ≤ f, e.lastOwnEnd counts s = some n := by
  refine latest_le fun a ha => ?_
  obtain ⟨r, hr, rfl⟩ := List.mem_map.1 ha
  exact le_of_lastOwnEnd h (select_subset_all hr)

/-! ## The entry of one check -/

/-- The entry of a check whose task reports does not depend on what runs beside it, nor on when and within what
limits. -/
theorem entry_eq_of_completed {g : Registry} {report other : Report}
    (h : (e.evaluate counts now s o).1.verdict = .completed report)
    (h' : (({ e with registry := g } : Evaluator).evaluate counts now' s' o').1.verdict =
      .completed other)
    (hr : r ∈ e.registry.select s) (hr' : r ∈ g.select s') (hl : e.losesTask r = false) :
    other.entries.get? r.name = report.entries.get? r.name := by
  obtain ⟨n, hend, hget⟩ := entry_of_completed h hr hl
  obtain ⟨n', hend', hget'⟩ :=
    @entry_of_completed { e with registry := g } counts now' s' o' r other h' hr' hl
  have hsame : ({ e with registry := g } : Evaluator).ownEnd counts r = e.ownEnd counts r := rfl
  rw [hsame, hend] at hend'
  cases hend'
  rw [hget, hget']
  rfl

/-- Two evaluations of the same evaluator agree on a check, but for the duration when its task died. -/
theorem entries_agree {report other : Report}
    (h : (e.evaluate counts now s o).1.verdict = .completed report)
    (h' : (e.evaluate counts now' s' o').1.verdict = .completed other)
    (hr : r ∈ e.registry.select s) (hr' : r ∈ e.registry.select s') :
    ∃ entry entry', report.entries.get? r.name = some entry ∧
      other.entries.get? r.name = some entry' ∧
      entry' = { entry with duration := entry'.duration } ∧
      (e.losesTask r = false → entry'.duration = entry.duration) := by
  cases hl : e.losesTask r with
  | true => exact ⟨_, _, entry_of_lost h hr hl, entry_of_lost h' hr' hl, rfl, fun hf => by cases hf⟩
  | false =>
    obtain ⟨n, -, hget⟩ := entry_of_completed h hr hl
    have hget' := entry_eq_of_completed h h' hr hr' hl
    rw [hget] at hget'
    exact ⟨_, _, hget, hget', rfl, fun _ => rfl⟩

end Evaluator

/-! ## The report -/

/-- A report of which each entry has its like in another one is no worse. -/
theorem Report.overall_le {report other : Report}
    (h : ∀ entry ∈ report.entries.values, ∃ entry' ∈ other.entries.values,
      entry.status = entry'.status) : report.overall ≤ other.overall := by
  rcases report.overall_is_worst.2 with ⟨-, hnone⟩ | ⟨entry, hentry, hworst⟩
  · rw [hnone]
    exact Nat.zero_le _
  · obtain ⟨entry', hentry', hstatus⟩ := h entry hentry
    rw [← hworst, hstatus]
    exact other.overall_is_worst.1 entry' hentry'

namespace Evaluator

/-- An entry of a report belongs to one of the selected checks. -/
theorem exists_of_mem_values {e : Evaluator} {counts : CallCounts} {now : Int} {s : Selector}
    {o : EvaluationLimits} {report : Report} {entry : Outcome}
    (h : (e.evaluate counts now s o).1.verdict = .completed report)
    (hentry : entry ∈ report.entries.values) :
    ∃ r ∈ e.registry.select s, report.entries.get? r.name = some entry := by
  obtain ⟨name, hget⟩ := NameMap.mem_values_iff.1 hentry
  obtain ⟨-, -, -, -, hkeys, -⟩ := entries_of_completed h
  have hname : name ∈ report.entries.keys := NameMap.mem_keys_iff.2 (by rw [hget]; rfl)
  obtain ⟨r, hr, rfl⟩ := List.mem_map.1 (hkeys.subset hname)
  exact ⟨r, hr, hget⟩

/-- When an evaluation of all checks completes, one of some of them does, no later and no worse, and its
report is the part of the whole that is about them. In any other company, too, a check whose task reports
leaves the same entry. -/
theorem restriction_of_completed (e : Evaluator) (counts : CallCounts) (now : Int) (s : Selector)
    (o : EvaluationLimits) (full : Report)
    (h : (e.evaluate counts now .all o).1.verdict = .completed full) :
    (∃ part, (e.evaluate counts now s o).1.verdict = .completed part ∧
      part.entries.keys.Perm
        ((e.registry.registrations.filter fun r => s.accepts r.name r.tags).map (·.name)) ∧
      (∀ r ∈ e.registry.registrations, s.accepts r.name r.tags = true →
        ∃ whole mine, full.entries.get? r.name = some whole ∧ part.entries.get? r.name = some mine ∧
          mine = { whole with duration := mine.duration } ∧
          (e.losesTask r = false → mine.duration = whole.duration)) ∧
      part.total ≤ full.total ∧ part.overall ≤ full.overall ∧ part.checkedAt = full.checkedAt) ∧
    ∀ (g : Registry) now' s' o' other,
      (({ e with registry := g } : Evaluator).evaluate counts now' s' o').1.verdict = .completed other →
      ∀ r ∈ e.registry.registrations, r ∈ g.select s' → e.losesTask r = false →
        other.entries.get? r.name = full.entries.get? r.name := by
  refine ⟨?_, fun g now' s' o' other hother r hr hr' hl =>
    entry_eq_of_completed h hother (List.mem_filter.2 ⟨hr, rfl⟩) hr' hl⟩
  obtain ⟨f, hlast, hleave, hfull, -, -⟩ := entries_of_completed h
  obtain ⟨n, hn, hown⟩ :=
    @lastOwnEnd_le_all e counts s f ((lastEnd_courses_iff hleave.deadline).1 hlast)
  obtain ⟨part, hpart⟩ := completed_iff_ownEnd.2 ⟨n, hown, hleave.mono hn⟩
  have hagree := fun r hr => @entries_agree e counts now now .all s o o r full part h hpart
    (select_subset_all hr) hr
  obtain ⟨m, hlast', hleave', hpart', hkeys, -⟩ := entries_of_completed hpart
  refine ⟨part, hpart, hkeys, fun r hr hs => hagree r (List.mem_filter.2 ⟨hr, hs⟩), ?_, ?_, ?_⟩
  · have hm := (lastEnd_courses_iff hleave'.deadline).1 hlast'
    rw [hown] at hm
    cases hm
    rw [hpart', hfull]
    exact Duration.ofMillis_le_ofMillis hn
  · refine Report.overall_le fun entry hentry => ?_
    obtain ⟨r, hr, hget⟩ := exists_of_mem_values hpart hentry
    obtain ⟨whole, mine, hwhole, hmine, hsame, -⟩ := hagree r hr
    rw [hget] at hmine
    cases hmine
    exact ⟨whole, NameMap.mem_values_iff.2 ⟨_, hwhole⟩, congrArg (·.status) hsame⟩
  · obtain ⟨_, -, -, rfl⟩ := completed_iff.1 h
    obtain ⟨_, -, -, rfl⟩ := completed_iff.1 hpart
    rfl

/-- Of three checks, the one that hangs past its timeout is evaluated without the one that takes longer. -/
theorem restriction_of_completed_mixed : ∃ full part,
    (evaluate { registry := .mixed } .empty 0 .all {}).1.verdict = .completed full ∧
      (evaluate { registry := .mixed } .empty 0 (.ofName "hangs") {}).1.verdict = .completed part ∧
      part.entries.keys.Perm ["hangs"] ∧
      part.entries.get? "hangs" = full.entries.get? "hangs" ∧ part.total ≤ full.total := by
  obtain ⟨⟨part, hpart, hkeys, hentries, htotal, -⟩, -⟩ :=
    restriction_of_completed { registry := .mixed } .empty 0 (.ofName "hangs") {} _ rfl
  obtain ⟨whole, mine, hwhole, hmine, hsame, hduration⟩ :=
    hentries _ (List.mem_cons_of_mem _ List.mem_cons_self) (by decide)
  refine ⟨_, part, rfl, hpart, hkeys, ?_, htotal⟩
  rw [hduration rfl] at hsame
  rw [hmine, hsame]
  exact hwhole.symm

end Evaluator

end HealthWatch
