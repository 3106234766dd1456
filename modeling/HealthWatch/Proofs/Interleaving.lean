import HealthWatch.Evaluation.Interleaving
import HealthWatch.Proofs.Gathering
import HealthWatch.Proofs.Verdicts
/-!
# One evaluation among others

A `Scene` is the part of a world that concerns one evaluation. Its own moves change it in few places, and the
moves of all others leave it as it is (`scene_move_of_ne`).
-/

namespace HealthWatch

/-! ## Probes that keep no state -/

/-- The verdict with its report dated anew. -/
def Verdict.dated (now : Int) : Verdict → Verdict
  | .completed r => .completed { r with checkedAt := now }
  | v => v

/-- The evaluation with its report dated anew. -/
def Evaluation.dated (now : Int) (v : Evaluation) : Evaluation :=
  { v with verdict := v.verdict.dated now }

namespace Evaluator

variable {e : Evaluator} {r : Registration}

/-- What a probe that evaluations share does does not depend on the calls that were made of it before. -/
def Stateless (e : Evaluator) : Prop :=
  ∀ r ∈ e.registry.registrations, ∀ probe, r.source = .shared probe →
    ∀ m n ctx, probe.call m ctx = probe.call n ctx

theorem Stateless.ofCheck_next (h : e.Stateless) (hr : r ∈ e.registry.registrations)
    (counts counts' : CallCounts) (deadline : Option Duration) :
    CheckCourse.ofCheck e deadline (counts.next r) r =
      .ofCheck e deadline (counts'.next r) r := by
  cases hs : r.source with
  | shared probe =>
    have hcall := h r hr probe hs (counts.next r) (counts'.next r) r.context
    simp only [CheckCourse.ofCheck, hs, ProbeSource.probe, hcall]
  | fresh make =>
    have hone : ∀ counts : CallCounts, counts.next r = 1 := fun counts => by
      rw [CallCounts.next, hs]
      rfl
    rw [hone, hone]

theorem Stateless.courses_eq (h : e.Stateless) (counts counts' : CallCounts) (s : Selector)
    (deadline : Option Duration) : e.courses counts s deadline = e.courses counts' s deadline :=
  List.map_congr_left fun _ hr => h.ofCheck_next (List.mem_filter.1 hr).1 counts counts' deadline

/-- The calls before an evaluation do not show in it. -/
theorem Stateless.evaluate_eq (h : e.Stateless) (counts counts' : CallCounts) (now : Int)
    (s : Selector) (o : EvaluationLimits) :
    (e.evaluate counts now s o).1 = (e.evaluate counts' now s o).1 := by
  unfold evaluate
  split
  · rfl
  · rw [h.courses_eq counts counts']

theorem conclude_dated (now now' : Int) (o : EvaluationLimits) (courses : List CheckCourse) :
    conclude now' o courses =
      ((conclude now o courses).1.dated now', (conclude now o courses).2) := by
  unfold conclude
  cases lastEnd courses with
  | none => cases limit o <;> rfl
  | some f =>
    dsimp only
    split <;> rfl

/-- The wall clock shows in the date of the report only. -/
theorem evaluate_dated (e : Evaluator) (counts : CallCounts) (now now' : Int) (s : Selector)
    (o : EvaluationLimits) :
    (e.evaluate counts now' s o).1 = (e.evaluate counts now s o).1.dated now' := by
  unfold evaluate
  split
  · rfl
  · dsimp only
    rw [conclude_dated now now']
    rfl

end Evaluator

/-! ## An evaluation alone -/

namespace Booking

variable {b : Booking} {e : Evaluator} {counts : CallCounts} {f l : Nat}

/-- The evaluation of a booking when there is no other. -/
def alone (b : Booking) (e : Evaluator) : Evaluation :=
  (e.evaluate .empty b.wall b.selector b.limits).1

/-- The same when the shared probes have been called before. -/
def result (b : Booking) (e : Evaluator) (counts : CallCounts) : Evaluation :=
  (e.evaluate counts b.wall b.selector b.limits).1

/-- The course that a check takes then. -/
def course (b : Booking) (e : Evaluator) (counts : CallCounts) (r : Registration) : CheckCourse :=
  .ofCheck e b.limits.deadline (counts.next r) r

/-- The courses that the selected checks take then. -/
def courses (b : Booking) (e : Evaluator) (counts : CallCounts) : List CheckCourse :=
  (e.registry.select b.selector).map (b.course e counts)

theorem nodup_names_courses : ((b.courses e counts).map (·.check.name)).Nodup :=
  Evaluator.nodup_names_courses

@[simp] theorem check_course (r : Registration) : (b.course e counts r).check = r :=
  CheckCourse.check_ofCheck ..

theorem checks_courses : (b.courses e counts).map (·.check) = e.registry.select b.selector := by
  simp [courses, Function.comp_def]

theorem result_of_stop (h : b.limits.stopsAtStart = true) : b.result e counts = .stillborn := by
  rw [result, Evaluator.evaluate, if_pos h]

theorem result_eq_of_go (h : b.limits.stopsAtStart = false) :
    b.result e counts =
      ⟨(Evaluator.conclude b.wall b.limits (b.courses e counts)).1,
        (Evaluator.conclude b.wall b.limits (b.courses e counts)).2,
        (b.courses e counts).filterMap Evaluator.startedCall?⟩ := by
  have hgo : ¬ b.limits.stopsAtStart = true := by
    rw [h]
    exact Bool.false_ne_true
  rw [result, Evaluator.evaluate, if_neg hgo]
  rfl

theorem result_of_go (h : b.limits.stopsAtStart = false) :
    ((b.result e counts).verdict, (b.result e counts).endsAt) =
      Evaluator.conclude b.wall b.limits (b.courses e counts) := by
  rw [result_eq_of_go h]

theorem result_of_last (h : b.limits.stopsAtStart = false)
    (hf : Evaluator.lastEnd (b.courses e counts) = some f)
    (hlimit : (Evaluator.limit b.limits).all (f < ·) = true) :
    ((b.result e counts).verdict, (b.result e counts).endsAt) = (.completed
      ⟨Evaluator.gather (.ofMillis f) (b.courses e counts) (b.courses e counts), .ofMillis f, b.wall⟩,
        some f) := by
  rw [result_of_go h, Evaluator.conclude, hf]
  exact if_pos hlimit

theorem result_of_limit (h : b.limits.stopsAtStart = false)
    (hl : Evaluator.limit b.limits = some l)
    (hlast : ∀ f, Evaluator.lastEnd (b.courses e counts) = some f → l ≤ f) :
    ((b.result e counts).verdict, (b.result e counts).endsAt) = (.cancelled, some l) := by
  rw [result_of_go h, Evaluator.conclude, hl]
  cases hf : Evaluator.lastEnd (b.courses e counts) with
  | none => rfl
  | some f =>
    have hle := hlast f hf
    exact if_neg (by simpa using hle)

/-- Only a call can time out. -/
theorem called_of_late {c : CheckCourse} (hc : c ∈ b.courses e counts) (hlate : c.timeoutAt ≠ none) :
    c.called = true := by
  obtain ⟨r, -, rfl⟩ := List.mem_map.1 hc
  unfold course CheckCourse.ofCheck at hlate ⊢
  split
  · next hp => exact absurd (by rw [hp]) hlate
  · rfl

theorem endsAt_of_timeoutAt {c : CheckCourse} {t : Nat} (hc : c ∈ b.courses e counts)
    (ht : c.timeoutAt = some t) : c.endsAt = some t := by
  obtain ⟨r, -, rfl⟩ := List.mem_map.1 hc
  exact CheckCourse.endsAt_of_timeoutAt ht

/-- The calls on record are those of the checks that make one. -/
theorem mem_calls_result_iff (h : b.limits.stopsAtStart = false) {call : StartedCall} :
    call ∈ (b.result e counts).calls ↔
      ∃ c ∈ b.courses e counts, c.called = true ∧ call = ⟨c.check.name, c.timeoutAt⟩ := by
  rw [result_eq_of_go h]
  simp only [List.mem_filterMap, Evaluator.startedCall?, Option.ite_none_right_eq_some,
    Option.some.injEq, eq_comm (a := call)]

/-- An evaluation that ends does so with its last check or at its limit, whichever is first. -/
theorem endsAt_result (h : b.limits.stopsAtStart = false) {n : Nat}
    (hn : (b.result e counts).endsAt = some n) :
    Evaluator.lastEnd (b.courses e counts) = some n ∨ Evaluator.limit b.limits = some n := by
  have hend := congrArg Prod.snd (@result_of_go b e counts h)
  rw [hn, Evaluator.conclude] at hend
  cases hf : Evaluator.lastEnd (b.courses e counts) with
  | none =>
    cases hl : Evaluator.limit b.limits with
    | none =>
      simp only [hf, hl] at hend
      cases hend
    | some l =>
      simp only [hf, hl] at hend
      exact .inr hend.symm
  | some f =>
    simp only [hf] at hend
    split at hend
    · exact .inl hend.symm
    · exact .inr hend.symm

end Booking

/-! ## Limits -/

namespace Evaluator

variable {o : EvaluationLimits} {l : Nat}

/-- What stops an evaluation at its limit. -/
theorem limit_cases (h : limit o = some l) :
    (∃ d, o.deadline = some d ∧ d.ceilMillis = l) ∨ o.cancelAt = some l := by
  unfold limit firesAt at h
  cases hd : o.deadline with
  | none =>
    rw [hd] at h
    exact .inr h
  | some d =>
    cases hc : o.cancelAt with
    | none =>
      rw [hd, hc] at h
      exact .inl ⟨d, rfl, Option.some.inj h⟩
    | some c =>
      rw [hd, hc] at h
      have hmin : min d.ceilMillis c = l := Option.some.inj h
      rcases Nat.le_total d.ceilMillis c with hle | hle
      · exact .inl ⟨d, rfl, by omega⟩
      · exact .inr (congrArg some (by omega))

theorem limit_le_deadline {d : Duration} (h : o.deadline = some d) :
    ∃ l ≤ d.ceilMillis, limit o = some l := by
  unfold limit firesAt
  rw [h]
  cases o.cancelAt with
  | none => exact ⟨_, Nat.le_refl _, rfl⟩
  | some c => exact ⟨_, Nat.min_le_left _ _, rfl⟩

theorem limit_le_cancelAt {c : Nat} (h : o.cancelAt = some c) : ∃ l ≤ c, limit o = some l := by
  unfold limit firesAt
  rw [h]
  cases o.deadline with
  | none => exact ⟨_, Nat.le_refl _, rfl⟩
  | some d => exact ⟨_, Nat.min_le_right _ _, rfl⟩

end Evaluator

/-! ## Scenes -/

variable {ι : Type}

namespace CancelToken

variable {cancelled : Set (CancelToken ι)} {i : ι} {name : String}

theorem cancelled_caller_iff : Cancelled cancelled (.caller i) ↔ .caller i ∈ cancelled := by
  constructor
  · rintro (h | ⟨hparent, -⟩)
    · exact h
    · cases hparent
  · exact .itself

theorem cancelled_evaluation_iff : Cancelled cancelled (.evaluation i) ↔
    .evaluation i ∈ cancelled ∨ .caller i ∈ cancelled := by
  constructor
  · rintro (h | ⟨hparent, h⟩)
    · exact .inl h
    · cases hparent
      exact .inr (cancelled_caller_iff.1 h)
  · rintro (h | h)
    · exact .itself h
    · exact .inherited rfl (.itself h)

theorem cancelled_check_iff : Cancelled cancelled (.check i name) ↔
    .check i name ∈ cancelled ∨ .evaluation i ∈ cancelled ∨ .caller i ∈ cancelled := by
  constructor
  · rintro (h | ⟨hparent, h⟩)
    · exact .inl h
    · cases hparent
      exact .inr (cancelled_evaluation_iff.1 h)
  · rintro (h | h)
    · exact .itself h
    · exact .inherited rfl (cancelled_evaluation_iff.2 h)

end CancelToken

/-- What concerns one evaluation in a world. -/
structure Scene where
  clock : Nat
  stage : Stage
  /-- The caller has cancelled. -/
  withdrawn : Prop
  /-- The evaluation has been stopped. -/
  stopped : Prop
  /-- The checks of which the token has been cancelled itself. -/
  timedOut : Set String
  /-- The checks of which the probe has been called. -/
  called : List String

/-- The scene of an evaluation. -/
def World.scene [DecidableEq ι] (w : World ι) (i : ι) : Scene where
  clock := w.clock
  stage := w.stage i
  withdrawn := .caller i ∈ w.cancelled
  stopped := .evaluation i ∈ w.cancelled
  timedOut := {name | .check i name ∈ w.cancelled}
  called := (w.calls.filter fun p => p.1 = i).map (·.2)

namespace World

variable [DecidableEq ι] {w : World ι} {i j : ι} {t : CancelToken ι} {s : Stage} {c : CheckCourse}

@[simp] theorem scene_become_self : (w.become i s).scene i = { w.scene i with stage := s } := by
  simp [scene, become]

@[simp] theorem scene_become_of_ne (h : i ≠ j) : (w.become j s).scene i = w.scene i := by
  simp [scene, become, h]

@[simp] theorem scene_cancel_caller : (w.cancel (.caller i)).scene i =
    { w.scene i with withdrawn := True } := by
  simp [scene, cancel]

@[simp] theorem scene_cancel_evaluation : (w.cancel (.evaluation i)).scene i =
    { w.scene i with stopped := True } := by
  simp [scene, cancel]

@[simp] theorem scene_cancel_check {name : String} : (w.cancel (.check i name)).scene i =
    { w.scene i with timedOut := insert name (w.scene i).timedOut } := by
  simp [scene, cancel, Set.insert_def]

/-- Cancelling a token that belongs to another evaluation does not concern this one. -/
theorem scene_cancel_of_ne (h : i ≠ t.owner) : (w.cancel t).scene i = w.scene i := by
  cases t <;> simp_all [scene, cancel, CancelToken.owner]

@[simp] theorem scene_call_self : (w.call i c).scene i = { w.scene i with
    called := if c.called then c.check.name :: (w.scene i).called else (w.scene i).called } := by
  unfold scene call
  cases c.called <;> simp

@[simp] theorem scene_call_of_ne (h : i ≠ j) : (w.call j c).scene i = w.scene i := by
  unfold scene call
  cases c.called <;> simp [h.symm]

@[simp] theorem scene_later : w.later.scene i = { w.scene i with clock := w.clock + 1 } := rfl

/-- What an evaluation does does not concern any other. -/
theorem scene_move_of_ne {e : Evaluator} {plan : ι → Booking} {w' : World ι} (h : Move e plan j w w')
    (hij : i ≠ j) : w'.scene i = w.scene i := by
  cases h with
  | refuse | abandon | expire => rw [scene_cancel_of_ne hij, scene_become_of_ne hij]
  | begin | report | stray | complete => rw [scene_become_of_ne hij]
  | poll => rw [scene_become_of_ne hij, scene_call_of_ne hij]
  | timeOut => rw [scene_cancel_of_ne hij, scene_become_of_ne hij]
  | withdraw => rw [scene_cancel_of_ne hij]

end World

end HealthWatch
