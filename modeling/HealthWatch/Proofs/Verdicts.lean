import HealthWatch.Proofs.Courses
/-!
# What an evaluation comes to

`completed_iff`, `cancelled_iff` and `pending_iff` sum up `Evaluator.evaluate`: it completes when the
last check ends before the deadline and before the caller cancels, it is cancelled when one of these
comes first, and it goes on for ever when nothing can end it. Later theorems are case analyses over
these three.
-/

namespace HealthWatch

namespace EvaluationLimits

/-- Neither the deadline nor the caller has stopped the evaluation at an instant. -/
structure Leave (o : EvaluationLimits) (f : Nat) : Prop where
  notBefore : o.cancelledBefore = false
  deadline : ∀ d ∈ o.deadline, f < d.ceilMillis
  cancelAt : ∀ c ∈ o.cancelAt, f < c

theorem stopsAtStart_iff {o : EvaluationLimits} :
    o.stopsAtStart = true ↔ o.cancelledBefore = true ∨ ∃ d ∈ o.deadline, d.ceilMillis = 0 := by
  unfold stopsAtStart
  rw [Bool.or_eq_true, Option.any_eq_true]
  simp only [decide_eq_true_eq, Option.mem_def]

end EvaluationLimits

/-- Whether the evaluation was cancelled. -/
def Verdict.isCancelled : Verdict → Bool
  | .cancelled => true
  | _ => false

theorem Verdict.isCancelled_iff {v : Verdict} : v.isCancelled = true ↔ v = .cancelled := by
  cases v <;> simp [isCancelled]

namespace Evaluator

variable {e : Evaluator} {counts : CallCounts} {now : Int} {s : Selector} {o : EvaluationLimits}

theorem all_lt_limit_iff {f : Nat} : (limit o).all (f < ·) = true ↔
    (∀ d ∈ o.deadline, f < d.ceilMillis) ∧ ∀ c ∈ o.cancelAt, f < c := by
  have hall : (limit o).all (f < ·) = true ↔ ∀ m ∈ limit o, f < m := by
    simp [Option.all_eq_true]
  rw [hall, limit, forall_mem_earlier_iff fun _ _ => Nat.lt_min, forall_mem_firesAt_iff]

theorem limit_eq_none_iff : limit o = none ↔ o.deadline = none ∧ o.cancelAt = none := by
  unfold limit firesAt
  cases o.deadline <;> cases o.cancelAt <;> simp [earlier]

/-- Either nothing is started, or the courses of the checks decide. -/
theorem evaluate_cases : (e.evaluate counts now s o).1.verdict = .cancelled ∧
      (∀ f, ¬ o.Leave f) ∧ (o.cancelledBefore = true ∨ o.deadline ≠ none) ∨
    o.cancelledBefore = false ∧ (e.evaluate counts now s o).1.verdict =
      (conclude now o (e.courses counts s o.deadline)).1 := by
  by_cases hb : o.stopsAtStart = true
  · have hev : e.evaluate counts now s o = (.stillborn, counts) := if_pos hb
    refine .inl ⟨by rw [hev]; rfl, ?_, ?_⟩
    · intro f hleave
      rcases EvaluationLimits.stopsAtStart_iff.1 hb with hb | ⟨d, hd, hz⟩
      · rw [hleave.notBefore] at hb
        cases hb
      · exact Nat.not_lt_zero f (hz ▸ hleave.deadline d hd)
    · refine (EvaluationLimits.stopsAtStart_iff.1 hb).imp_right ?_
      rintro ⟨d, hd, -⟩ hnone
      rw [hnone] at hd
      cases hd
  · refine .inr ⟨?_, ?_⟩
    · rw [EvaluationLimits.stopsAtStart_iff, not_or] at hb
      exact Bool.not_eq_true _ ▸ hb.1
    · unfold evaluate
      rw [if_neg hb]

theorem conclude_of_last {courses : List CheckCourse} {f : Nat} (hf : lastEnd courses = some f) :
    (conclude now o courses).1 =
      if (limit o).all (f < ·) then
        .completed ⟨gather (.ofMillis f) courses courses, .ofMillis f, now⟩
      else .cancelled := by
  unfold conclude
  rw [hf]
  cases limit o with
  | none => rfl
  | some l =>
    by_cases h : f < l
    · simp [h]
    · simp [h]

theorem conclude_of_never {courses : List CheckCourse} (hf : lastEnd courses = none) :
    (conclude now o courses).1 = if limit o = none then .pending else .cancelled := by
  unfold conclude
  rw [hf]
  cases limit o <;> rfl

/-- An evaluation completes when the last check ends before it is stopped. -/
theorem completed_iff {report : Report} :
    (e.evaluate counts now s o).1.verdict = .completed report ↔
      ∃ f, lastEnd (e.courses counts s o.deadline) = some f ∧ o.Leave f ∧
        report = ⟨gather (.ofMillis f) (e.courses counts s o.deadline)
          (e.courses counts s o.deadline), .ofMillis f, now⟩ := by
  rcases evaluate_cases with ⟨hv, hstop, -⟩ | ⟨hnot, hv⟩
  · rw [hv]
    constructor
    · intro h
      cases h
    · rintro ⟨f, -, hleave, -⟩
      exact absurd hleave (hstop f)
  · rw [hv]
    constructor
    · intro h
      cases hf : lastEnd (e.courses counts s o.deadline) with
      | none =>
        rw [conclude_of_never hf] at h
        split at h <;> cases h
      | some f =>
        rw [conclude_of_last hf] at h
        split at h
        · next hall =>
          obtain ⟨hd, hc⟩ := all_lt_limit_iff.1 hall
          exact ⟨f, rfl, ⟨hnot, hd, hc⟩, (Verdict.completed.inj h).symm⟩
        · cases h
    · rintro ⟨f, hf, hleave, rfl⟩
      rw [conclude_of_last hf]
      exact if_pos (all_lt_limit_iff.2 ⟨hleave.deadline, hleave.cancelAt⟩)

/-- An evaluation goes on for ever when a check does and nothing stops it. -/
theorem pending_iff : (e.evaluate counts now s o).1.verdict = .pending ↔
    o.cancelledBefore = false ∧ o.deadline = none ∧ o.cancelAt = none ∧
      lastEnd (e.courses counts s o.deadline) = none := by
  rcases evaluate_cases with ⟨hv, -, hwhy⟩ | ⟨hnot, hv⟩
  · rw [hv]
    constructor
    · intro h
      cases h
    · rintro ⟨hnot, hd, -, -⟩
      rcases hwhy with hb | hb
      · rw [hnot] at hb
        cases hb
      · exact absurd hd hb
  · rw [hv]
    constructor
    · intro h
      cases hf : lastEnd (e.courses counts s o.deadline) with
      | none =>
        rw [conclude_of_never hf] at h
        split at h
        · next hl =>
          obtain ⟨hd, hc⟩ := limit_eq_none_iff.1 hl
          exact ⟨hnot, hd, hc, rfl⟩
        · cases h
      | some f =>
        rw [conclude_of_last hf] at h
        split at h <;> cases h
    · rintro ⟨-, hd, hc, hf⟩
      rw [conclude_of_never hf]
      exact if_pos (limit_eq_none_iff.2 ⟨hd, hc⟩)

/-- In all other cases an evaluation is cancelled. -/
theorem cancelled_iff : (e.evaluate counts now s o).1.verdict = .cancelled ↔
    (∀ report, (e.evaluate counts now s o).1.verdict ≠ .completed report) ∧
      (e.evaluate counts now s o).1.verdict ≠ .pending := by
  cases (e.evaluate counts now s o).1.verdict <;> simp

/-! ## Calls -/

/-- Whether a probe can be made for a check. -/
def canProbe (e : Evaluator) (r : Registration) : Bool := (r.source.probe e.services).isOk

theorem startedCall?_ofCheck (deadline : Option Duration) (number : Nat) (r : Registration) :
    (startedCall? (.ofCheck e deadline number r)).map (·.check) =
      if e.canProbe r then some r.name else none := by
  unfold CheckCourse.ofCheck canProbe startedCall?
  cases r.source.probe e.services <;> rfl

/-- An evaluation calls each of the selected probes once, unless it is over at its start. -/
theorem calls_evaluate : (e.evaluate counts now s o).1.calls.map (·.check) =
    if o.stopsAtStart then [] else ((e.registry.select s).filter e.canProbe).map (·.name) := by
  unfold evaluate
  split
  · rfl
  · rw [List.map_filterMap, courses, List.filterMap_map]
    simp only [Function.comp_def, startedCall?_ofCheck]
    induction e.registry.select s with
    | nil => rfl
    | cons r rs ih =>
      rw [List.filterMap_cons, List.filter_cons, ih]
      split <;> simp_all

/-- Only the probes of selected checks are called, each of them once at most. -/
theorem sublist_calls : ((e.evaluate counts now s o).1.calls.map (·.check)).Sublist
    ((e.registry.select s).map (·.name)) := by
  rw [calls_evaluate]
  split
  · exact List.nil_sublist _
  · exact List.filter_sublist.map _

end Evaluator

end HealthWatch
