import HealthWatch.Evaluation
/-!
# How a check ends

`ownEnd` is the instant at which a check ends when nothing but its own call and its own timeout can
end it. A deadline shortens the timeout of every check that is still going when it strikes;
`ofCheck_before_deadline` says that a check which ends before the deadline does not notice it, and
`ownEnd_of_endsAt` that a check which seems to end before the deadline does so by itself.
-/

namespace HealthWatch

/-! ## Instants, which may be never -/

theorem later_eq_some_iff {a b : Option Nat} {n : Nat} :
    later a b = some n ↔ ∃ i j, a = some i ∧ b = some j ∧ max i j = n := by
  cases a <;> cases b <;> simp [later]

theorem latest_eq_none_iff {l : List (Option Nat)} : latest l = none ↔ none ∈ l := by
  induction l with
  | nil => simp [latest]
  | cons a l ih =>
    show later a (latest l) = none ↔ _
    rw [List.mem_cons, ← ih]
    cases a <;> cases latest l <;> simp [later]

/-- The last of several instants is one of them, unless there are none, and none of them is
later. -/
theorem latest_eq_some_iff {l : List (Option Nat)} {n : Nat} :
    latest l = some n ↔ (∀ a ∈ l, ∃ i ≤ n, a = some i) ∧ (n = 0 ∨ some n ∈ l) := by
  induction l generalizing n with
  | nil => simp [latest, eq_comm]
  | cons a l ih =>
    show later a (latest l) = some n ↔ _
    rw [later_eq_some_iff]
    constructor
    · rintro ⟨i, j, rfl, hj, rfl⟩
      obtain ⟨hall, hmem⟩ := ih.1 hj
      refine ⟨?_, ?_⟩
      · intro b hb
        rcases List.mem_cons.1 hb with rfl | hb
        · exact ⟨i, Nat.le_max_left _ _, rfl⟩
        · obtain ⟨k, hk, rfl⟩ := hall b hb
          exact ⟨k, Nat.le_trans hk (Nat.le_max_right _ _), rfl⟩
      · rcases Nat.le_total j i with hji | hij
        · rw [Nat.max_eq_left hji]
          exact .inr List.mem_cons_self
        · rw [Nat.max_eq_right hij]
          exact hmem.imp_right (List.mem_cons_of_mem _)
    · rintro ⟨hall, hmem⟩
      obtain ⟨i, hi, rfl⟩ := hall a List.mem_cons_self
      -- The rest has a last end, too, since none of its members is never.
      cases hl : latest l with
      | none =>
        obtain ⟨k, -, hk⟩ := hall none (List.mem_cons_of_mem _ (latest_eq_none_iff.1 hl))
        cases hk
      | some j =>
        have hjl := (ih.1 hl).1
        refine ⟨i, j, rfl, rfl, ?_⟩
        have hj : j ≤ n := by
          rcases (ih.1 hl).2 with rfl | hj
          · exact Nat.zero_le _
          · obtain ⟨k, hk, hkj⟩ := hall (some j) (List.mem_cons_of_mem _ hj)
            cases hkj
            exact hk
        rcases hmem with rfl | hmem
        · omega
        · rcases List.mem_cons.1 hmem with hn | hn
          · cases hn
            omega
          · obtain ⟨k, hk, hkn⟩ := hjl (some n) hn
            cases hkn
            omega

/-- Instants that are all within a bound have their last within it. -/
theorem latest_le {l : List (Option Nat)} {b : Nat} (h : ∀ a ∈ l, ∃ n ≤ b, a = some n) :
    ∃ f ≤ b, latest l = some f := by
  cases hf : latest l with
  | none =>
    obtain ⟨n, -, hn⟩ := h none (latest_eq_none_iff.1 hf)
    cases hn
  | some f =>
    refine ⟨f, ?_, rfl⟩
    rcases (latest_eq_some_iff.1 hf).2 with rfl | hmem
    · exact Nat.zero_le _
    · obtain ⟨n, hn, hfn⟩ := h _ hmem
      cases hfn
      exact hn

section Earlier
variable {a b c : Option Nat} {own deadline : Option Duration} {n : Nat}

theorem earlier_none (a : Option Nat) : earlier a none = a := by cases a <;> rfl

theorem earlier_assoc : earlier (earlier a b) c = earlier a (earlier b c) := by
  cases a with
  | none => rfl
  | some i =>
    cases b with
    | none => rfl
    | some j =>
      cases c with
      | none => rfl
      | some k => exact congrArg some (Nat.min_assoc i j k)

/-- What comes only later does not change what is earlier. -/
theorem earlier_eq_some_iff_of_lt (hn : ∀ m ∈ b, n < m) : earlier a b = some n ↔ a = some n := by
  cases b with
  | none => rw [earlier_none]
  | some m =>
    have hm : n < m := hn m rfl
    cases a with
    | none =>
      refine ⟨fun h => ?_, fun h => by cases h⟩
      cases h
      exact absurd hm (Nat.lt_irrefl _)
    | some i =>
      show some (min i m) = some n ↔ some i = some n
      rw [Option.some.injEq, Option.some.injEq]
      omega

/-- A bound from below holds of the earlier instant exactly when it holds of both. -/
theorem forall_mem_earlier_iff {p : Nat → Prop} (hp : ∀ i j, p (min i j) ↔ p i ∧ p j) :
    (∀ m ∈ earlier a b, p m) ↔ (∀ m ∈ a, p m) ∧ ∀ m ∈ b, p m := by
  cases a with
  | none => simp [earlier]
  | some i =>
    cases b with
    | none => simp [earlier]
    | some j => simpa [earlier] using hp i j

theorem forall_mem_firesAt_iff (p : Nat → Prop) :
    (∀ m ∈ firesAt deadline, p m) ↔ ∀ d ∈ deadline, p d.ceilMillis := by
  cases deadline <;> simp [firesAt]

theorem shorter?_none (own : Option Duration) : shorter? own none = own := by cases own <;> rfl

theorem firesAt_shorter :
    firesAt (shorter? own deadline) = earlier (firesAt own) (firesAt deadline) := by
  cases own with
  | none => rfl
  | some t =>
    cases deadline with
    | none => rfl
    | some d => exact congrArg some (Duration.ceilMillis_shorter t d)

end Earlier

/-! ## The end of a check by itself -/

namespace Evaluator

/-- When a check ends by itself: with its call or when its timeout fires, whichever is first; at
once when no probe can be made for it. -/
def ownEnd (e : Evaluator) (counts : CallCounts) (r : Registration) : Option Nat :=
  match r.source.probe e.services with
  | .error _ => some 0
  | .ok probe =>
    earlier (probe.call (counts.next r) r.context).endsAfter (firesAt (e.timeout r))

/-- When the last of the selected checks has ended by itself, zero when none is selected. -/
def lastOwnEnd (e : Evaluator) (counts : CallCounts) (s : Selector) : Option Nat :=
  latest ((e.registry.select s).map (e.ownEnd counts))

/-- Whether the task of a check dies before it can report. -/
def losesTask (e : Evaluator) (r : Registration) : Bool :=
  match r.source.probe e.services with
  | .error _ => false
  | .ok probe => probe.panicsOnRelease && !r.source.isShared

end Evaluator

/-! ## The race of a call, a timer and a deadline -/

section Race
variable {call timer b : Option Nat} {own deadline : Option Duration} {n : Nat}

/-- A race is over before the deadline exactly when it is over then without the deadline. -/
theorem race_end_iff (hn : ∀ d ∈ deadline, n < d.ceilMillis) :
    earlier call (firesAt (shorter? own deadline)) = some n ↔
      earlier call (firesAt own) = some n := by
  rw [firesAt_shorter, ← earlier_assoc, earlier_eq_some_iff_of_lt ((forall_mem_firesAt_iff _).2 hn)]

/-- The deadline does not change who wins a race that is over before it. -/
theorem race_winner (h : earlier call timer = some n) (hn : ∀ m ∈ b, n < m) :
    CheckCourse.timesOut call (earlier timer b) = CheckCourse.timesOut call timer := by
  cases b with
  | none => rw [earlier_none]
  | some m =>
    have hm : n < m := hn m rfl
    cases call with
    | none =>
      cases timer with
      | none => cases h
      | some j => rfl
    | some i =>
      cases timer with
      | none =>
        cases h
        simpa [earlier, CheckCourse.timesOut] using Nat.le_of_lt hm
      | some j =>
        have hij : min i j = n := Option.some.inj h
        simp only [earlier, CheckCourse.timesOut, decide_eq_decide]
        omega

/-- A call is late when it is still going as its timer fires. -/
theorem timesOut_iff {t : Nat} :
    CheckCourse.timesOut call (some t) = true ↔ ∀ m, call = some m → t < m := by
  cases call <;> simp [CheckCourse.timesOut]

/-- The race against a call that is late ends with the timer. -/
theorem earlier_of_late (h : CheckCourse.timesOut call timer = true) : earlier call timer = timer := by
  cases timer with
  | none => cases call <;> cases h
  | some t =>
    cases call with
    | none => rfl
    | some m => exact congrArg some (Nat.min_eq_right (Nat.le_of_lt (timesOut_iff.1 h m rfl)))

/-- A timeout that fires before the deadline is not shortened by it. -/
theorem shorter_of_late (h : earlier call (firesAt own) = some n)
    (hn : ∀ d ∈ deadline, n < d.ceilMillis)
    (hlate : CheckCourse.timesOut call (firesAt own) = true) : shorter? own deadline = own := by
  cases own with
  | none => cases call <;> cases hlate
  | some t =>
    cases deadline with
    | none => rfl
    | some d =>
      have hd : n < d.ceilMillis := hn d rfl
      refine congrArg some (Duration.shorter_eq_left ?_)
      cases call with
      | none =>
        cases h
        exact hd
      | some i =>
        have hti : t.ceilMillis < i := of_decide_eq_true hlate
        have hmin : min i t.ceilMillis = n := Option.some.inj h
        omega

end Race

/-! ## The course of a check -/

namespace CheckCourse

variable {e : Evaluator} {counts : CallCounts} {r : Registration} {deadline : Option Duration}
  {n : Nat}

@[simp] theorem check_ofCheck (e : Evaluator) (deadline : Option Duration) (number : Nat)
    (r : Registration) : (ofCheck e deadline number r).check = r := by
  unfold ofCheck
  split <;> rfl

theorem endsAt_ofCheck_of_probe {probe : Probe} (hp : r.source.probe e.services = .ok probe) :
    (ofCheck e deadline (counts.next r) r).endsAt =
      earlier (probe.call (counts.next r) r.context).endsAfter
        (firesAt (shorter? (e.timeout r) deadline)) := by
  simp only [ofCheck, hp]

theorem ownEnd_of_probe {probe : Probe} (hp : r.source.probe e.services = .ok probe) :
    e.ownEnd counts r =
      earlier (probe.call (counts.next r) r.context).endsAfter (firesAt (e.timeout r)) := by
  simp only [Evaluator.ownEnd, hp]

theorem outcome_of_losesTask {number : Nat} (hl : e.losesTask r = true) :
    (ofCheck e deadline number r).outcome = none := by
  unfold Evaluator.losesTask at hl
  cases hp : r.source.probe e.services with
  | error fault =>
    rw [hp] at hl
    cases hl
  | ok probe =>
    rw [hp] at hl
    simp only [ofCheck, hp, hl, if_true]

/-- A task that does not die reports a timeout, or else the way in which the call ended. -/
theorem outcome_of_probe {probe : Probe} (hp : r.source.probe e.services = .ok probe)
    (hl : e.losesTask r = false) :
    (ofCheck e deadline (counts.next r) r).outcome =
      some (if timesOut (probe.call (counts.next r) r.context).endsAfter
          (firesAt (shorter? (e.timeout r) deadline)) = true then
        (ProbeFailure.timeout ((shorter? (e.timeout r) deadline).getD .zero)).outcome
          r.failureStatus
      else (probe.call (counts.next r) r.context).ending.toOutcome r.failureStatus) := by
  unfold Evaluator.losesTask at hl
  rw [hp] at hl
  simp only [ofCheck, hp, hl, Bool.false_eq_true, if_false]

/-- A check of which the timeout fires ends with it. -/
theorem endsAt_of_timeoutAt {number t : Nat} (h : (ofCheck e deadline number r).timeoutAt = some t) :
    (ofCheck e deadline number r).endsAt = some t := by
  unfold ofCheck at h ⊢
  cases hp : r.source.probe e.services with
  | error fault =>
    rw [hp] at h
    cases h
  | ok probe =>
    simp only [hp, Option.ite_none_right_eq_some] at h ⊢
    exact (earlier_of_late h.1).trans h.2

/-- Without a deadline a check ends by itself. -/
theorem endsAt_ofCheck_none : (ofCheck e none (counts.next r) r).endsAt = e.ownEnd counts r := by
  cases hp : r.source.probe e.services with
  | error fault => simp only [ofCheck, Evaluator.ownEnd, hp]
  | ok probe =>
    rw [endsAt_ofCheck_of_probe hp, ownEnd_of_probe hp]
    cases e.timeout r <;> rfl

/-- A check that ends by itself before the deadline takes the course that it takes without one. -/
theorem ofCheck_before_deadline (h : e.ownEnd counts r = some n)
    (hn : ∀ d ∈ deadline, n < d.ceilMillis) :
    ofCheck e deadline (counts.next r) r = ofCheck e none (counts.next r) r := by
  cases hp : r.source.probe e.services with
  | error fault => simp only [ofCheck, hp]
  | ok probe =>
    rw [ownEnd_of_probe hp] at h
    have hend := (race_end_iff hn).2 h
    have hlate := race_winner h ((forall_mem_firesAt_iff _).2 hn)
    rw [← firesAt_shorter] at hlate
    simp only [ofCheck, hp, shorter?_none, hlate, h, hend]
    -- Only a timeout shows which timer was set.
    cases hl : timesOut (probe.call (counts.next r) r.context).endsAfter (firesAt (e.timeout r)) with
    | true => rw [shorter_of_late h hn hl]
    | false => simp only [Bool.false_eq_true, if_false]

/-- A check that ends before the deadline ends then by itself. -/
theorem ownEnd_of_endsAt (h : (ofCheck e deadline (counts.next r) r).endsAt = some n)
    (hn : ∀ d ∈ deadline, n < d.ceilMillis) : e.ownEnd counts r = some n := by
  cases hp : r.source.probe e.services with
  | error fault =>
    simp only [ofCheck, hp] at h
    simp only [Evaluator.ownEnd, hp]
    exact h
  | ok probe =>
    rw [endsAt_ofCheck_of_probe hp] at h
    rw [ownEnd_of_probe hp]
    exact (race_end_iff hn).1 h

end CheckCourse

/-! ## The courses of the selected checks -/

namespace Evaluator

variable {e : Evaluator} {counts : CallCounts} {s : Selector} {deadline : Option Duration} {f : Nat}

theorem mem_courses {c : CheckCourse} : c ∈ e.courses counts s deadline ↔
    ∃ r ∈ e.registry.select s, CheckCourse.ofCheck e deadline (counts.next r) r = c :=
  List.mem_map

theorem names_courses : (e.courses counts s deadline).map (·.check.name) =
    (e.registry.select s).map (·.name) := by
  rw [courses, List.map_map]
  refine List.map_congr_left fun r _ => ?_
  show (CheckCourse.ofCheck e deadline (counts.next r) r).check.name = r.name
  rw [CheckCourse.check_ofCheck]

theorem nodup_names_courses :
    ((e.courses counts s deadline).map (·.check.name)).Nodup := by
  rw [names_courses]
  exact e.registry.nodup_names_select s

theorem le_of_lastOwnEnd {r : Registration} (h : e.lastOwnEnd counts s = some f)
    (hr : r ∈ e.registry.select s) : ∃ n ≤ f, e.ownEnd counts r = some n :=
  (latest_eq_some_iff.1 h).1 _ (List.mem_map_of_mem hr)

/-- When all checks end by themselves before the deadline, it changes none of their courses. -/
theorem courses_before_deadline (h : e.lastOwnEnd counts s = some f)
    (hf : ∀ d ∈ deadline, f < d.ceilMillis) :
    e.courses counts s deadline = e.courses counts s none := by
  refine List.map_congr_left fun r hr => ?_
  obtain ⟨n, hn, hr⟩ := le_of_lastOwnEnd h hr
  exact CheckCourse.ofCheck_before_deadline hr fun d hd => Nat.lt_of_le_of_lt hn (hf d hd)

/-- The last check ends at an instant before the deadline exactly when it does so by itself. -/
theorem lastEnd_courses_iff (hf : ∀ d ∈ deadline, f < d.ceilMillis) :
    lastEnd (e.courses counts s deadline) = some f ↔ e.lastOwnEnd counts s = some f := by
  have hown : ∀ r, (CheckCourse.ofCheck e none (counts.next r) r).endsAt = e.ownEnd counts r :=
    fun r => CheckCourse.endsAt_ofCheck_none
  have hnone : lastEnd (e.courses counts s none) = e.lastOwnEnd counts s := by
    simp only [lastEnd, lastOwnEnd, courses, List.map_map, Function.comp_def, hown]
  constructor
  · intro h
    obtain ⟨hall, hlast⟩ := latest_eq_some_iff.1 h
    refine latest_eq_some_iff.2 ⟨?_, hlast.imp_right ?_⟩
    · intro a ha
      obtain ⟨r, hr, rfl⟩ := List.mem_map.1 ha
      obtain ⟨n, hn, hend⟩ := hall _ (List.mem_map_of_mem (mem_courses.2 ⟨r, hr, rfl⟩))
      exact ⟨n, hn, CheckCourse.ownEnd_of_endsAt hend fun d hd => Nat.lt_of_le_of_lt hn (hf d hd)⟩
    · intro hmem
      obtain ⟨c, hc, hend⟩ := List.mem_map.1 hmem
      obtain ⟨r, hr, rfl⟩ := mem_courses.1 hc
      exact List.mem_map.2 ⟨r, hr, CheckCourse.ownEnd_of_endsAt hend hf⟩
  · intro h
    rw [courses_before_deadline h hf, hnone, h]

end Evaluator

end HealthWatch
