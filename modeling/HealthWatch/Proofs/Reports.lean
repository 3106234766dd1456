import HealthWatch.Proofs.Courses
import HealthWatch.Proofs.Gathering
import HealthWatch.Proofs.Verdicts
/-!
# Reports lose, double and invent nothing

A task ends in one of three ways: it reports what its probe found, it reports a failure, or it dies.
`finalEntry_cases` says what each of them leaves in the report; `report_faithful` puts this together
for all checks of an evaluation that completes.
-/

namespace HealthWatch

/-- An outcome that says that a check failed, and why. -/
structure Outcome.IsFailureOf (o : Outcome) (r : Registration) : Prop where
  status : o.status = r.failureStatus
  data : o.data = .empty
  described : o.description.isSome = true
  explained : o.error.isSome = true

namespace Evaluator

/-- The task of a check reports the outcome that its probe found after `t` milliseconds, no later
than the timeout of the check and the deadline. -/
structure Finds (e : Evaluator) (counts : CallCounts) (deadline : Option Duration)
    (r : Registration) (t : Nat) (found : Outcome) : Prop where
  call : ∃ probe, r.source.probe e.services = .ok probe ∧
    probe.call (counts.next r) r.context = ⟨some t, .outcome found⟩
  reports : e.losesTask r = false
  inTime : ∀ d ∈ e.timeout r, t ≤ d.ceilMillis
  beforeDeadline : ∀ d ∈ deadline, t ≤ d.ceilMillis

end Evaluator

theorem ProbeFailure.isFailureOf (r : Registration) (failure : ProbeFailure) :
    (failure.outcome r.failureStatus).IsFailureOf r where
  status := rfl
  data := rfl
  described := rfl
  explained := rfl

theorem Outcome.IsFailureOf.stamped {o : Outcome} {r : Registration} (h : o.IsFailureOf r)
    (duration : Duration) (tags : NameSet) :
    Outcome.IsFailureOf { o with duration := duration, tags := tags } r where
  status := h.status
  data := h.data
  described := h.described
  explained := h.explained

/-! ## What a task reports -/

namespace CheckCourse

variable {e : Evaluator} {counts : CallCounts} {r : Registration} {deadline : Option Duration}
  {n t : Nat}

theorem timesOut_eq_false_iff {timer : Option Nat} :
    timesOut (some t) timer = false ↔ ∀ i ∈ timer, t ≤ i := by
  cases timer <;> simp [timesOut]

theorem le_firesAt_shorter_iff {own : Option Duration} :
    (∀ i ∈ firesAt (shorter? own deadline), t ≤ i) ↔
      (∀ d ∈ own, t ≤ d.ceilMillis) ∧ ∀ d ∈ deadline, t ≤ d.ceilMillis := by
  rw [firesAt_shorter, forall_mem_earlier_iff fun _ _ => Nat.le_min, forall_mem_firesAt_iff,
    forall_mem_firesAt_iff]

/-- A call that is over before its timer fires ends the check. -/
theorem endsAfter_of_in_time {call timer : Option Nat} (h : earlier call timer = some n)
    (hl : timesOut call timer = false) : call = some n := by
  cases call with
  | none => cases timer <;> simp [earlier, timesOut] at h hl
  | some i =>
    cases timer with
    | none => exact h
    | some j =>
      simp only [timesOut, decide_eq_false_iff_not, Nat.not_lt] at hl
      simpa only [earlier, Nat.min_eq_left hl] using h

theorem not_finds_of_fault {fault : CreationFault} (hp : r.source.probe e.services = .error fault)
    {found : Outcome} : ¬ e.Finds counts deadline r t found := by
  rintro ⟨⟨probe, hprobe, -⟩, -, -, -⟩
  rw [hp] at hprobe
  cases hprobe

theorem call_of_finds {probe : Probe} (hp : r.source.probe e.services = .ok probe)
    {found : Outcome} (h : e.Finds counts deadline r t found) :
    probe.call (counts.next r) r.context = ⟨some t, .outcome found⟩ := by
  obtain ⟨probe', hprobe, hcall⟩ := h.call
  rw [hp] at hprobe
  cases hprobe
  exact hcall

theorem not_finds_of_late {probe : Probe} (hp : r.source.probe e.services = .ok probe)
    (hlate : timesOut (probe.call (counts.next r) r.context).endsAfter
      (firesAt (shorter? (e.timeout r) deadline)) = true) {found : Outcome} :
    ¬ e.Finds counts deadline r t found := by
  intro h
  have hintime := timesOut_eq_false_iff.2 (le_firesAt_shorter_iff.2 ⟨h.inTime, h.beforeDeadline⟩)
  rw [call_of_finds hp h, hintime] at hlate
  cases hlate

/-- What a task reports of a call that is over in time: what the probe found, or else a failure. -/
theorem ending_cases {probe : Probe} (hp : r.source.probe e.services = .ok probe)
    (hl : e.losesTask r = false)
    (hcall : (probe.call (counts.next r) r.context).endsAfter = some n)
    (hlate : timesOut (some n) (firesAt (shorter? (e.timeout r) deadline)) = false) :
    (∃ found, e.Finds counts deadline r n found ∧
        (probe.call (counts.next r) r.context).ending.toOutcome r.failureStatus = found) ∨
      (∀ t found, ¬ e.Finds counts deadline r t found) ∧
        ((probe.call (counts.next r) r.context).ending.toOutcome r.failureStatus).IsFailureOf r := by
  cases hending : (probe.call (counts.next r) r.context).ending with
  | outcome found =>
    obtain ⟨hown, hdeadline⟩ := le_firesAt_shorter_iff.1 (timesOut_eq_false_iff.1 hlate)
    refine .inl ⟨found, ⟨⟨probe, hp, ?_⟩, hl, hown, hdeadline⟩, rfl⟩
    rw [← hcall, ← hending]
  | error failure =>
    refine .inr ⟨fun t found h => ?_, failure.isFailureOf r⟩
    rw [call_of_finds hp h] at hending
    cases hending
  | panic payload =>
    refine .inr ⟨fun t found h => ?_, payload.error.isFailureOf r⟩
    rw [call_of_finds hp h] at hending
    cases hending

/-- What a task reports when the check ends: what its probe found, or else a failure or nothing. -/
theorem outcome_cases (hend : (ofCheck e deadline (counts.next r) r).endsAt = some n) :
    (∃ found, e.Finds counts deadline r n found ∧
        (ofCheck e deadline (counts.next r) r).outcome = some found) ∨
      (∀ t found, ¬ e.Finds counts deadline r t found) ∧
        ((ofCheck e deadline (counts.next r) r).outcome = none ∨
          ∃ o, (ofCheck e deadline (counts.next r) r).outcome = some o ∧ o.IsFailureOf r) := by
  cases hp : r.source.probe e.services with
  | error fault =>
    refine .inr ⟨fun t found => not_finds_of_fault hp, .inr ⟨_, ?_, fault.toError.isFailureOf r⟩⟩
    simp only [ofCheck, hp]
  | ok probe =>
    cases hl : e.losesTask r with
    | true =>
      refine .inr ⟨fun t found h => ?_, .inl (outcome_of_losesTask hl)⟩
      rw [h.reports] at hl
      cases hl
    | false =>
      rw [endsAt_ofCheck_of_probe hp] at hend
      rw [outcome_of_probe hp hl]
      cases hlate : timesOut (probe.call (counts.next r) r.context).endsAfter
          (firesAt (shorter? (e.timeout r) deadline)) with
      | true =>
        rw [if_pos rfl]
        exact .inr ⟨fun t found => not_finds_of_late hp hlate,
          .inr ⟨_, rfl, ProbeFailure.isFailureOf r _⟩⟩
      | false =>
        -- The timer has not fired, so the check ended with its call.
        have hcall := endsAfter_of_in_time hend hlate
        rw [hcall] at hlate
        rw [if_neg Bool.false_ne_true]
        rcases ending_cases hp hl hcall hlate with ⟨found, hfinds, ho⟩ | ⟨hnone, hfail⟩
        · exact .inl ⟨found, hfinds, congrArg some ho⟩
        · exact .inr ⟨hnone, .inr ⟨_, rfl, hfail⟩⟩

/-- What a check that ends leaves in the report. -/
theorem finalEntry_cases (total : Duration)
    (hend : (ofCheck e deadline (counts.next r) r).endsAt = some n) :
    (∃ found, e.Finds counts deadline r n found ∧
        (ofCheck e deadline (counts.next r) r).finalEntry total =
          { found with duration := .ofMillis n, tags := r.tags }) ∨
      (∀ t found, ¬ e.Finds counts deadline r t found) ∧
        ((ofCheck e deadline (counts.next r) r).finalEntry total).IsFailureOf r := by
  rcases outcome_cases hend with ⟨found, hfinds, ho⟩ | ⟨hnone, ho | ⟨o, ho, hfail⟩⟩
  · refine .inl ⟨found, hfinds, ?_⟩
    simp only [finalEntry, entry?, ho, hend, Option.map_some, Option.getD_some, check_ofCheck]
  · refine .inr ⟨hnone, ?_⟩
    simp only [finalEntry, entry?, ho, Option.map_none, Option.getD_none, missed, check_ofCheck]
    exact (lost.isFailureOf r).stamped _ _
  · refine .inr ⟨hnone, ?_⟩
    simp only [finalEntry, entry?, ho, Option.map_some, Option.getD_some]
    exact hfail.stamped _ _

theorem tags_finalEntry (total : Duration) (c : CheckCourse) :
    (c.finalEntry total).tags = c.check.tags := by
  unfold finalEntry entry?
  cases c.outcome <;> rfl

/-- No entry takes longer than the evaluation. -/
theorem duration_finalEntry_le {f : Nat} {c : CheckCourse} (hend : c.endsAt = some n)
    (hn : n ≤ f) : (c.finalEntry (.ofMillis f)).duration ≤ .ofMillis f := by
  unfold finalEntry entry?
  rw [hend]
  cases c.outcome with
  | none => exact Nat.le_refl _
  | some o => exact Duration.ofMillis_le_ofMillis hn

end CheckCourse

/-! ## The report as a whole -/

/-- The entries of an evaluation that completes: the names of the selected checks, and for each of
them what its course leaves. -/
theorem Evaluator.entries_of_completed {e : Evaluator} {counts : CallCounts} {now : Int}
    {s : Selector} {o : EvaluationLimits} {report : Report}
    (h : (e.evaluate counts now s o).1.verdict = .completed report) :
    ∃ f, lastEnd (e.courses counts s o.deadline) = some f ∧ o.Leave f ∧
      report.total = .ofMillis f ∧
      report.entries.keys.Perm ((e.registry.select s).map (·.name)) ∧
      ∀ r ∈ e.registry.select s, ∃ n ≤ f,
        (CheckCourse.ofCheck e o.deadline (counts.next r) r).endsAt = some n ∧
        report.entries.get? r.name =
          some ((CheckCourse.ofCheck e o.deadline (counts.next r) r).finalEntry (.ofMillis f)) := by
  obtain ⟨f, hf, hleave, rfl⟩ := completed_iff.1 h
  have hnodup := @nodup_names_courses e counts s o.deadline
  refine ⟨f, hf, hleave, rfl, ?_, ?_⟩
  · refine (List.perm_ext_iff_of_nodup (NameMap.nodup_keys _)
      (e.registry.nodup_names_select s)).2 fun name => ?_
    rw [mem_keys_gather (.refl _) hnodup, names_courses]
  · intro r hr
    have hmem : CheckCourse.ofCheck e o.deadline (counts.next r) r ∈ e.courses counts s o.deadline :=
      mem_courses.2 ⟨r, hr, rfl⟩
    obtain ⟨n, hn, hend⟩ := (latest_eq_some_iff.1 hf).1 _ (List.mem_map_of_mem hmem)
    refine ⟨n, hn, hend, ?_⟩
    rw [← get?_gather (.refl _) hnodup hmem, CheckCourse.check_ofCheck]

theorem Report.overall_is_worst (r : Report) :
    (∀ o ∈ r.entries.values, o.status ≤ r.overall) ∧
      (r.entries.values = [] ∧ r.overall = .healthy ∨
        ∃ o ∈ r.entries.values, o.status = r.overall) := by
  refine ⟨fun o ho => Status.le_worst (List.mem_map_of_mem ho), ?_⟩
  cases hv : r.entries.values with
  | nil => exact .inl ⟨rfl, by rw [Report.overall, hv]; rfl⟩
  | cons o l =>
    have hmem : r.overall ∈ r.entries.values.map (·.status) :=
      Status.worst_mem (by simp [hv])
    rw [← hv]
    exact .inr (List.mem_map.1 hmem)

/-- A report has one entry for each check that the selector accepts and no others. The entry is what
the probe found in time, dated and tagged; in every other case it is a failure of the check. -/
theorem Evaluator.report_faithful (e : Evaluator) (counts : CallCounts) (now : Int) (s : Selector)
    (o : EvaluationLimits) (report : Report)
    (h : (e.evaluate counts now s o).1.verdict = .completed report) :
    report.entries.keys.Perm
        ((e.registry.registrations.filter fun r => s.accepts r.name r.tags).map (·.name)) ∧
      report.entries.keys.Nodup ∧
      (∀ r ∈ e.registry.registrations, s.accepts r.name r.tags = true →
        ∃ entry, report.entries.get? r.name = some entry ∧
          ((∃ t found, e.Finds counts o.deadline r t found ∧
              entry = { found with duration := .ofMillis t, tags := r.tags }) ∨
            (∀ t found, ¬ e.Finds counts o.deadline r t found) ∧ entry.IsFailureOf r) ∧
          entry.tags = r.tags ∧ entry.duration ≤ report.total) ∧
      (∀ entry ∈ report.entries.values, entry.status ≤ report.overall) ∧
      (report.entries.values = [] ∧ report.overall = .healthy ∨
        ∃ entry ∈ report.entries.values, entry.status = report.overall) := by
  obtain ⟨f, -, -, htotal, hkeys, hentries⟩ := entries_of_completed h
  obtain ⟨hbounds, hworst⟩ := report.overall_is_worst
  refine ⟨hkeys, report.entries.nodup_keys, ?_, hbounds, hworst⟩
  intro r hr hs
  obtain ⟨n, hn, hend, hget⟩ := hentries r (List.mem_filter.2 ⟨hr, hs⟩)
  refine ⟨_, hget, ?_, ?_, htotal ▸ CheckCourse.duration_finalEntry_le hend hn⟩
  · refine (CheckCourse.finalEntry_cases (.ofMillis f) hend).imp_left ?_
    rintro ⟨found, hfinds, hentry⟩
    exact ⟨n, found, hfinds, hentry⟩
  · rw [CheckCourse.tags_finalEntry, CheckCourse.check_ofCheck]

/-- Three checks: one finds something after 3 ms, one hangs past its timeout of 1.5 ms, and the task
of one dies. -/
def Registry.mixed : Registry where
  registrations := [
    { name := "found", source := .shared ⟨fun _ _ => ⟨some 3, .outcome { status := .degraded }⟩, false⟩
      tags := .ofList ["ready"] },
    { name := "hangs", source := .shared ⟨fun _ _ => ⟨none, .panic .other⟩, false⟩
      timeout := some (.ofNanos 1500000) },
    { name := "dies", source := .fresh fun _ => .ok ⟨fun _ _ => .now { status := .healthy }, true⟩ }]
  distinct := by decide
  notBlank := by decide

theorem Evaluator.report_faithful_mixed : ∃ report,
    (evaluate { registry := .mixed } .empty 0 .all {}).1.verdict = .completed report ∧
      report.entries.keys.Perm ["found", "hangs", "dies"] ∧
      (∃ entry, report.entries.get? "hangs" = some entry ∧ entry.duration ≤ report.total) ∧
      ∃ entry ∈ report.entries.values, entry.status = report.overall := by
  have h := report_faithful { registry := .mixed } .empty 0 .all {} _ rfl
  obtain ⟨hkeys, -, hentries, -, hworst⟩ := h
  refine ⟨_, rfl, hkeys, ?_, ?_⟩
  · obtain ⟨entry, hget, -, -, hle⟩ := hentries _ (List.mem_cons_of_mem _ List.mem_cons_self) rfl
    exact ⟨entry, hget, hle⟩
  · refine hworst.resolve_left ?_
    rintro ⟨hnone, -⟩
    have hlen := hkeys.length_eq
    simp only [NameMap.keys, List.length_map] at hlen
    rw [NameMap.values, List.map_eq_nil_iff] at hnone
    rw [hnone] at hlen
    cases hlen

end HealthWatch
