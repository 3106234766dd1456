import HealthWatch.Proofs.Reports
/-!
# When an evaluation is cut short

A deadline cancels an evaluation as a whole or leaves no trace in it. `completed_iff_ownEnd` says when
an evaluation completes in terms of checks that know of no deadline, `entry_of_completed` what such a
check leaves in the report; `completes_iff_in_time` puts the two together.
-/

namespace HealthWatch

namespace Evaluator

variable {e : Evaluator} {counts : CallCounts} {now : Int} {s : Selector} {o : EvaluationLimits}
  {r : Registration}

/-! ## What a check reports by itself -/

/-- The timeout of a check fires while the call is still going. -/
structure RunsOut (e : Evaluator) (counts : CallCounts) (r : Registration) (t : Duration) :
    Prop where
  timeout : e.timeout r = some t
  call : ∃ probe, r.source.probe e.services = .ok probe ∧
    ∀ n, (probe.call (counts.next r) r.context).endsAfter = some n → t.ceilMillis < n

/-- What a task reports when nothing but the timeout of the check can cut its call short. -/
def ownOutcome (e : Evaluator) (counts : CallCounts) (r : Registration) : Outcome :=
  match r.source.probe e.services with
  | .error fault => fault.toError.outcome r.failureStatus
  | .ok probe =>
    let call := probe.call (counts.next r) r.context
    match e.timeout r with
    | some t =>
      if CheckCourse.timesOut call.endsAfter (some t.ceilMillis) then
        (ProbeFailure.timeout t).outcome r.failureStatus
      else call.ending.toOutcome r.failureStatus
    | none => call.ending.toOutcome r.failureStatus

theorem ownOutcome_of_runsOut {t : Duration} (h : e.RunsOut counts r t) :
    e.ownOutcome counts r = (ProbeFailure.timeout t).outcome r.failureStatus := by
  obtain ⟨probe, hp, hcall⟩ := h.call
  have hlate : CheckCourse.timesOut (probe.call (counts.next r) r.context).endsAfter
      (some t.ceilMillis) = true := timesOut_iff.2 hcall
  simp only [ownOutcome, hp, h.timeout, hlate, if_true]

theorem ownEnd_of_runsOut {t : Duration} (h : e.RunsOut counts r t) :
    e.ownEnd counts r = some t.ceilMillis := by
  obtain ⟨probe, hp, hcall⟩ := h.call
  rw [CheckCourse.ownEnd_of_probe hp, h.timeout]
  exact earlier_of_late (timesOut_iff.2 hcall)

/-- Without a deadline a task reports what it reports by itself. -/
theorem outcome_ofCheck_none (hl : e.losesTask r = false) :
    (CheckCourse.ofCheck e none (counts.next r) r).outcome = some (e.ownOutcome counts r) := by
  cases hp : r.source.probe e.services with
  | error fault => simp only [CheckCourse.ofCheck, ownOutcome, hp]
  | ok probe =>
    rw [CheckCourse.outcome_of_probe hp hl]
    simp only [ownOutcome, hp]
    cases e.timeout r with
    | none => cases (probe.call (counts.next r) r.context).endsAfter <;> rfl
    | some t => rfl

/-! ## What a deadline changes -/

/-- An evaluation completes when the last check has ended by itself before it is stopped. -/
theorem completed_iff_ownEnd : (∃ report, (e.evaluate counts now s o).1.verdict = .completed report) ↔
    ∃ f, e.lastOwnEnd counts s = some f ∧ o.Leave f := by
  constructor
  · rintro ⟨report, h⟩
    obtain ⟨f, hf, hleave, -⟩ := completed_iff.1 h
    exact ⟨f, (lastEnd_courses_iff hleave.deadline).1 hf, hleave⟩
  · rintro ⟨f, hf, hleave⟩
    exact ⟨_, completed_iff.2 ⟨f, (lastEnd_courses_iff hleave.deadline).2 hf, hleave, rfl⟩⟩

/-- What a check whose task reports leaves in the report of an evaluation that completes. -/
theorem entry_of_completed {report : Report}
    (h : (e.evaluate counts now s o).1.verdict = .completed report)
    (hr : r ∈ e.registry.select s) (hl : e.losesTask r = false) :
    ∃ n, e.ownEnd counts r = some n ∧ report.entries.get? r.name =
      some { e.ownOutcome counts r with duration := .ofMillis n, tags := r.tags } := by
  obtain ⟨f, -, hleave, -, -, hentries⟩ := entries_of_completed h
  obtain ⟨n, hn, hend, hget⟩ := hentries r hr
  -- It ends no later than the last check, and that ends before the deadline.
  have hbefore : ∀ d ∈ o.deadline, n < d.ceilMillis := fun d hd =>
    Nat.lt_of_le_of_lt hn (hleave.deadline d hd)
  have hown := CheckCourse.ownEnd_of_endsAt hend hbefore
  refine ⟨n, hown, ?_⟩
  rw [CheckCourse.ofCheck_before_deadline hown hbefore] at hend hget
  rw [hget]
  simp only [CheckCourse.finalEntry, CheckCourse.entry?, outcome_ofCheck_none hl, hend,
    Option.map_some, Option.getD_some, CheckCourse.check_ofCheck]

/-- A check whose task dies fails as late as the evaluation ends. -/
theorem entry_of_lost {report : Report}
    (h : (e.evaluate counts now s o).1.verdict = .completed report)
    (hr : r ∈ e.registry.select s) (hl : e.losesTask r = true) :
    report.entries.get? r.name = some { CheckCourse.lost.outcome r.failureStatus with
      duration := report.total, tags := r.tags } := by
  obtain ⟨f, -, -, htotal, -, hentries⟩ := entries_of_completed h
  obtain ⟨n, -, -, hget⟩ := hentries r hr
  have hnone := @CheckCourse.outcome_of_losesTask e r o.deadline (counts.next r) hl
  rw [hget, htotal]
  simp only [CheckCourse.finalEntry, CheckCourse.entry?, hnone, Option.map_none, Option.getD_none,
    CheckCourse.missed, CheckCourse.check_ofCheck]

/-- An evaluation that can end at all completes exactly when the last check has ended by itself
before the deadline and before the caller cancels, and is cancelled otherwise. The report of one that
completes shows no trace of the deadline: neither in the times nor in the timeouts. -/
theorem completes_iff_in_time (e : Evaluator) (counts : CallCounts) (now : Int) (s : Selector)
    (o : EvaluationLimits)
    (h : e.lastOwnEnd counts s ≠ none ∨ o.deadline ≠ none ∨ o.cancelAt ≠ none ∨
      o.cancelledBefore = true) :
    ((∃ report, (e.evaluate counts now s o).1.verdict = .completed report) ↔
        o.cancelledBefore = false ∧ ∃ f, e.lastOwnEnd counts s = some f ∧
          (∀ d ∈ o.deadline, f * 1_000_000 < d.nanos) ∧ ∀ c ∈ o.cancelAt, f < c) ∧
      ((∀ report, (e.evaluate counts now s o).1.verdict ≠ .completed report) →
        (e.evaluate counts now s o).1.verdict = .cancelled) ∧
      ∀ report, (e.evaluate counts now s o).1.verdict = .completed report →
        (∃ f, e.lastOwnEnd counts s = some f ∧ report.total = .ofMillis f) ∧
        ∀ r ∈ e.registry.select s, e.losesTask r = false →
          ∃ n entry, e.ownEnd counts r = some n ∧ report.entries.get? r.name = some entry ∧
            entry = { e.ownOutcome counts r with duration := .ofMillis n, tags := r.tags } ∧
            ∀ t, e.RunsOut counts r t →
              entry.error = some (ProbeFailure.timeout t).message ∧
              entry.description = some ("Timed out after " ++ Numeral.text t.millis ++ "ms") := by
  refine ⟨?_, ?_, ?_⟩
  · rw [completed_iff_ownEnd]
    constructor
    · rintro ⟨f, hf, hleave⟩
      exact ⟨hleave.notBefore, f, hf,
        fun d hd => Duration.lt_ceilMillis_iff.1 (hleave.deadline d hd), hleave.cancelAt⟩
    · rintro ⟨hnot, f, hf, hd, hc⟩
      exact ⟨f, hf, hnot, fun d hdl => Duration.lt_ceilMillis_iff.2 (hd d hdl), hc⟩
  · intro hnever
    refine cancelled_iff.2 ⟨hnever, fun hpending => ?_⟩
    obtain ⟨hnot, hd, hc, hlast⟩ := pending_iff.1 hpending
    rcases h with hf | hf | hf | hf
    · -- Without a deadline the courses of the checks are their own.
      obtain ⟨f, hf⟩ := Option.ne_none_iff_exists'.1 hf
      have hnone : ∀ d ∈ o.deadline, f < d.ceilMillis := by simp [hd]
      rw [(lastEnd_courses_iff hnone).2 hf] at hlast
      cases hlast
    · exact hf hd
    · exact hf hc
    · rw [hnot] at hf
      cases hf
  · intro report hv
    obtain ⟨f, hlast, hleave, htotal, -, -⟩ := entries_of_completed hv
    refine ⟨⟨f, (lastEnd_courses_iff hleave.deadline).1 hlast, htotal⟩, ?_⟩
    intro r hr hl
    obtain ⟨n, hn, hget⟩ := entry_of_completed hv hr hl
    refine ⟨n, _, hn, hget, rfl, ?_⟩
    intro t ht
    rw [ownOutcome_of_runsOut ht]
    exact ⟨rfl, rfl⟩

/-- A check that hangs, under the default timeout, and one with a longer timeout of its own. -/
def patient : Evaluator where
  registry := {
    registrations := [
      { name := "hangs", source := .shared ⟨fun _ _ => ⟨none, .panic .other⟩, false⟩ },
      { name := "slow", source := .shared ⟨fun _ _ => ⟨some 4, .outcome { status := .healthy }⟩, false⟩
        timeout := some (.ofSecs 1) }]
    distinct := by decide
    notBlank := by decide }
  defaultTimeout := some (.ofNanos 2_500_000)

/-- A deadline of 2.5 ms comes too late to stop a check that hangs past a timeout of 1.5 ms, and a
cancellation at 3 ms stops a check that ends then. The default timeout cuts off the check that has none of its
own, and its report shows nothing of a deadline of 5 ms. -/
theorem completes_iff_in_time_mixed :
    (∃ report, (evaluate { registry := .mixed } .empty 0 (.ofName "hangs")
        { deadline := some (.ofNanos 2500000) }).1.verdict = .completed report) ∧
      (evaluate { registry := .mixed } .empty 0 .all { cancelAt := some 3 }).1.verdict =
        .cancelled ∧
      ∃ report entry, (patient.evaluate .empty 0 .all
          { deadline := some (.ofNanos 5_000_000) }).1.verdict = .completed report ∧
        report.total = .ofNanos 4_000_000 ∧ report.entries.get? "hangs" = some entry ∧
        entry.duration = .ofNanos 3_000_000 ∧ entry.error = some "probe timed out after 2.5ms" ∧
        entry.description = some "Timed out after 2ms" := by
  obtain ⟨hiff, -, -⟩ := completes_iff_in_time { registry := .mixed } .empty 0 (.ofName "hangs")
    { deadline := some (.ofNanos 2500000) } (.inr (.inl (by decide)))
  obtain ⟨hiff', hcancel, -⟩ := completes_iff_in_time { registry := .mixed } .empty 0 .all
    { cancelAt := some 3 } (.inr (.inr (.inl (by decide))))
  obtain ⟨hiff'', -, hreport⟩ := completes_iff_in_time patient .empty 0 .all
    { deadline := some (.ofNanos 5_000_000) } (.inr (.inl (by decide)))
  refine ⟨hiff.2 ⟨rfl, 2, by decide, by decide, by simp⟩, hcancel fun report hv => ?_, ?_⟩
  · obtain ⟨-, f, hf, -, hc⟩ := hiff'.1 ⟨report, hv⟩
    have hthree : lastOwnEnd { registry := .mixed } .empty .all = some 3 := by decide
    rw [hthree] at hf
    cases hf
    exact Nat.lt_irrefl 3 (hc 3 rfl)
  · have hlast : patient.lastOwnEnd .empty .all = some 4 := by decide
    obtain ⟨report, hv⟩ := hiff''.2 ⟨rfl, 4, hlast, by decide, by simp⟩
    obtain ⟨⟨f, hf, htotal⟩, hentries⟩ := hreport report hv
    obtain ⟨n, entry, hn, hget, hentry, htimeout⟩ := hentries _ List.mem_cons_self rfl
    obtain rfl : 4 = f := Option.some.inj (hlast.symm.trans hf)
    obtain rfl : 3 = n := Option.some.inj hn
    obtain ⟨herror, hdescription⟩ := htimeout _ ⟨rfl, _, rfl, fun n hn => nomatch hn⟩
    refine ⟨report, entry, hv, htotal, hget, ?_, herror.trans ?_, hdescription.trans ?_⟩
    · rw [hentry]
      rfl
    · decide +kernel
    · decide +kernel

end Evaluator

end HealthWatch
