import HealthWatch.Evaluation.Sequence
import HealthWatch.Proofs.Agreement
import HealthWatch.Proofs.Reports
import Mathlib.Algebra.Order.BigOperators.Group.Finset
/-!
# Evaluations do not disturb one another

In a run every scene is sound (`Run.sound`), since moves of others do not concern it. Each instant has only so
many moves in it (`movesLeft_lt`), so the clock gets past the end of every evaluation (`Run.passes`), and the
evaluation is over then, with the verdict that it has alone. `evaluations_independent` says so for sequences
and for overlaps.
-/

namespace HealthWatch

variable {e : Evaluator} {ι : Type} [DecidableEq ι] {plan : ι → Booking} {counts : CallCounts}
  {w w' : World ι} {i : ι}

/-! ## Every instant has only so many moves -/

/-- A bound on the moves from a stage of an evaluation with so many checks: a check has a first turn and is
joined, and the evaluation begins and ends. -/
def Stage.movesLeft (checks : Nat) : Stage → Nat
  | .ahead => 2 * checks + 2
  | .underWay waiting live _ => 2 * waiting.length + live.length + 1
  | .finished _ _ => 0

open Classical in
/-- The caller may cancel besides, once. -/
noncomputable def Scene.movesLeft (checks : Nat) (v : Scene) : Nat :=
  v.stage.movesLeft checks + if v.withdrawn then 0 else 1

noncomputable def World.movesLeft [Fintype ι] (e : Evaluator) (plan : ι → Booking) (w : World ι) :
    Nat :=
  ∑ i, (w.scene i).movesLeft (e.registry.select (plan i).selector).length

theorem Move.clock_eq (h : Move e plan i w w') : w'.clock = w.clock := by
  cases h <;> rfl

theorem Scene.movesLeft_lt {v v' : Scene} {checks : Nat} (hwithdrawn : v.withdrawn → v'.withdrawn)
    (hstage : v'.stage.movesLeft checks < v.stage.movesLeft checks) :
    v'.movesLeft checks < v.movesLeft checks := by
  unfold Scene.movesLeft
  by_cases hw : v.withdrawn
  · rw [if_pos hw, if_pos (hwithdrawn hw)]
    exact hstage
  · rw [if_neg hw]
    split <;> omega

/-- Every move of an evaluation brings it closer to its end. -/
theorem Move.movesLeft_lt (h : Move e plan i w w') :
    (w'.scene i).movesLeft (e.registry.select (plan i).selector).length <
      (w.scene i).movesLeft (e.registry.select (plan i).selector).length := by
  have hstage_eq : (w.scene i).stage = w.stage i := rfl
  cases h with
  | withdraw _ _ _ hfirst =>
    have hstay : ¬ (w.scene i).withdrawn := hfirst
    simp [Scene.movesLeft, hstay]
  | refuse hstage | abandon hstage | expire hstage =>
    rw [World.scene_cancel_evaluation, World.scene_become_self]
    refine Scene.movesLeft_lt id ?_
    simp only [hstage_eq, hstage, Stage.movesLeft]
    omega
  | begin hstage | report hstage | stray hstage | complete hstage =>
    rw [World.scene_become_self]
    refine Scene.movesLeft_lt id ?_
    simp only [hstage_eq, hstage, Stage.movesLeft, List.length_append, List.length_cons,
      List.length_nil]
    omega
  | timeOut hstage =>
    rw [World.scene_cancel_check, World.scene_become_self]
    refine Scene.movesLeft_lt id ?_
    simp only [hstage_eq, hstage, Stage.movesLeft, List.length_append, List.length_cons]
    omega
  | poll hstage =>
    rw [World.scene_become_self, World.scene_call_self]
    refine Scene.movesLeft_lt id ?_
    simp only [hstage_eq, hstage, Stage.movesLeft, List.length_append, List.length_cons]
    omega

theorem World.movesLeft_lt [Fintype ι] (h : Move e plan i w w') :
    w'.movesLeft e plan < w.movesLeft e plan := by
  refine Finset.sum_lt_sum (fun j _ => ?_) ⟨i, Finset.mem_univ i, h.movesLeft_lt⟩
  by_cases hij : j = i
  · subst hij
    exact Nat.le_of_lt h.movesLeft_lt
  · rw [World.scene_move_of_ne h hij]

/-! ## Runs -/

theorem Step.cases (h : Step e plan w w') : (∃ i, Move e plan i w w') ∨
    w' = w.later ∧ ∀ i w', ¬ Move e plan i w w' := by
  cases h with
  | move i h => exact .inl ⟨i, h⟩
  | tick hidle => exact .inr ⟨rfl, hidle⟩

/-- There is always a next step. -/
theorem Step.exists (e : Evaluator) (plan : ι → Booking) (w : World ι) : ∃ w', Step e plan w w' := by
  by_cases hmove : ∃ i w', Move e plan i w w'
  · obtain ⟨i, w', h⟩ := hmove
    exact ⟨w', .move i h⟩
  · exact ⟨_, .tick fun i w' h => hmove ⟨i, w', h⟩⟩

namespace World.Run

theorem nonempty (e : Evaluator) (plan : ι → Booking) (counts : CallCounts) :
    Nonempty (World.Run e plan counts) := by
  choose next hnext using Step.exists e plan
  exact ⟨⟨fun k => next^[k] (.start counts plan), rfl, fun k => by
    rw [Function.iterate_succ_apply']
    exact hnext _⟩⟩

variable (run : World.Run e plan counts)

theorem sound {counts' : CallCounts} {i : ι}
    (hn : ∀ k, (run.world k).Numbered e counts' (plan i) i) (k : Nat) :
    Sound e counts' (plan i) ((run.world k).scene i) := by
  induction k with
  | zero =>
    rw [run.first]
    exact .start e counts' counts plan i
  | succ k ih =>
    rcases (run.next k).cases with ⟨j, hmove⟩ | ⟨hlater, hidle⟩
    -- Only its own moves and the tick change the scene of an evaluation.
    · by_cases hij : i = j
      · subst hij
        exact ih.move (hn k) hmove
      · rw [World.scene_move_of_ne hmove hij]
        exact ih
    · rw [hlater]
      exact ih.tick (hidle i)

theorem clock_mono : Monotone fun k => (run.world k).clock := by
  refine monotone_nat_of_le_succ fun k => ?_
  rcases (run.next k).cases with ⟨j, hmove⟩ | ⟨hlater, -⟩
  · exact Nat.le_of_eq hmove.clock_eq.symm
  · rw [hlater]
    exact Nat.le_succ _

/-- The moves at an instant come to an end. -/
theorem clock_moves [Fintype ι] (k : Nat) : ∃ m, (run.world k).clock < (run.world m).clock := by
  induction hleft : (run.world k).movesLeft e plan using Nat.strong_induction_on generalizing k with
  | _ left ih =>
    rcases (run.next k).cases with ⟨i, hmove⟩ | ⟨hlater, -⟩
    · obtain ⟨m, hm⟩ := ih _ (hleft ▸ World.movesLeft_lt hmove) (k + 1) rfl
      exact ⟨m, hmove.clock_eq ▸ hm⟩
    · refine ⟨k + 1, ?_⟩
      rw [hlater]
      exact Nat.lt_succ_self _

/-- The clock gets past every instant. -/
theorem passes [Fintype ι] (instant : Nat) : ∃ k, ∀ m ≥ k, instant < (run.world m).clock := by
  suffices ∃ k, instant < (run.world k).clock by
    obtain ⟨k, hk⟩ := this
    exact ⟨k, fun m hm => Nat.lt_of_lt_of_le hk (run.clock_mono hm)⟩
  induction instant with
  | zero =>
    obtain ⟨m, hm⟩ := run.clock_moves 0
    exact ⟨m, Nat.lt_of_le_of_lt (Nat.zero_le _) hm⟩
  | succ instant ih =>
    obtain ⟨k, hk⟩ := ih
    obtain ⟨m, hm⟩ := run.clock_moves k
    exact ⟨m, Nat.lt_of_le_of_lt hk hm⟩

/-- What an evaluation does in a run is what it does alone. -/
structure Undisturbed (i : ι) : Prop where
  /-- It ends when it ends alone, with the verdict that it has then. -/
  ends : ∀ n, ((plan i).alone e).endsAt = some n → ∃ k, ∀ m ≥ k,
    (run.world m).stage i = .finished ((plan i).alone e).verdict ((plan i).startsAt + n)
  /-- It does not end in any other way. -/
  only : ∀ m verdict endedAt, (run.world m).stage i = .finished verdict endedAt →
    verdict = ((plan i).alone e).verdict ∧
      ((plan i).alone e).endsAt = some (endedAt - (plan i).startsAt)
  /-- Its checks are cancelled by their own timeouts, or because it was cancelled itself. -/
  tokens : ∀ m name, CancelToken.Cancelled (run.world m).cancelled (.check i name) →
    (∃ call ∈ ((plan i).alone e).calls, call.check = name ∧ call.timeoutAt.isSome = true) ∨
      ((plan i).alone e).verdict = .cancelled ∨ (plan i).limits.cancelledBefore = true ∨
      ∃ n, (plan i).limits.cancelAt = some n ∧ (plan i).startsAt + n ≤ (run.world m).clock
  /-- It calls the probes of its checks once at most. -/
  once : ∀ m, (((run.world m).calls.filter fun p => p.1 = i).map (·.2)).Nodup
  selected : ∀ m name, (i, name) ∈ (run.world m).calls →
    name ∈ (e.registry.select (plan i).selector).map (·.name)

/-- Once the clock is past the end of an evaluation alone, it is over. -/
theorem over_of_passed {v : Scene} {b : Booking} {n : Nat} (hs : Sound e counts b v)
    (hn : (b.result e counts).endsAt = some n) (hpassed : b.startsAt + n < v.clock) :
    v.stage = .finished (b.result e counts).verdict (b.startsAt + n) := by
  cases hstage : v.stage with
  | ahead => exact absurd (hs.standing_of hstage).1 (by omega)
  | underWay waiting live joined =>
    have hu := hs.underWay hstage
    rcases Booking.endsAt_result hu.goes hn with hlast | hlimit
    · exact absurd (hu.lasts n hlast) (by omega)
    · exact absurd (hu.inTime n hlimit) (by omega)
  | finished verdict endedAt =>
    obtain ⟨hverdict, n', hn', hat, -⟩ := hs.standing_of hstage
    rw [hn] at hn'
    cases hn'
    rw [hverdict, hat]

/-- An evaluation that ends alone ends in the run, at the same instant and with the same verdict. -/
theorem ends [Fintype ι] {counts' : CallCounts} {i : ι} {n : Nat}
    (hs : ∀ m, Sound e counts' (plan i) ((run.world m).scene i))
    (hn : ((plan i).result e counts').endsAt = some n) : ∃ k, ∀ m ≥ k,
      (run.world m).stage i = .finished ((plan i).result e counts').verdict ((plan i).startsAt + n) := by
  obtain ⟨k, hk⟩ := run.passes ((plan i).startsAt + n)
  exact ⟨k, fun m hm => over_of_passed (hs m) hn (hk m hm)⟩

/-- It does not end in any other way. -/
theorem only_ends {counts' : CallCounts} {i : ι} {m : Nat} {verdict : Verdict} {endedAt : Nat}
    (hs : Sound e counts' (plan i) ((run.world m).scene i))
    (hstage : (run.world m).stage i = .finished verdict endedAt) :
    verdict = ((plan i).result e counts').verdict ∧
      ((plan i).result e counts').endsAt = some (endedAt - (plan i).startsAt) := by
  obtain ⟨hverdict, n, hn, hat, -⟩ := hs.standing_of hstage
  refine ⟨hverdict, ?_⟩
  rw [hn, hat, Nat.add_sub_cancel_left]

theorem undisturbed [Fintype ι] (he : e.Stateless) (i : ι) : run.Undisturbed i := by
  have hs : ∀ m, Sound e .empty (plan i) ((run.world m).scene i) :=
    run.sound fun _ => he.numbered _ _ _
  exact {
    ends := fun n hn => run.ends hs hn
    only := fun m verdict endedAt hstage => run.only_ends (hs m) hstage
    tokens := fun m name htoken => by
      rcases CancelToken.cancelled_check_iff.1 htoken with hlate | hstop | hw
      · obtain ⟨call, hcall, hcheck, t, ht, -⟩ := (hs m).overdue name hlate
        exact .inl ⟨call, hcall, hcheck, Option.isSome_iff_exists.2 ⟨t, ht⟩⟩
      · exact .inr (.inl ((hs m).stopped hstop))
      · exact .inr (.inr ((hs m).withdrawn hw))
    once := fun m => (hs m).once
    selected := fun m name hcall => (hs m).selected name
      (List.mem_map.2 ⟨_, List.mem_filter.2 ⟨hcall, by simp⟩, rfl⟩) }

end World.Run

/-! ## An evaluation that has the evaluator to itself -/

theorem CallCounts.next_congr {counts counts' : CallCounts} {r : Registration}
    (h : counts.get? r.name = counts'.get? r.name) : counts.next r = counts'.next r := by
  rw [next, next, h]

/-- A move of an evaluation counts no call but its own. -/
theorem Move.get?_counts (h : Move e plan i w w') {name : String}
    (hname : name ∉ (w'.scene i).called) :
    name ∉ (w.scene i).called ∧ w'.counts.get? name = w.counts.get? name := by
  cases h with
  | poll hstage =>
    rw [World.scene_become_self, World.scene_call_self] at hname
    dsimp only at hname
    show _ ∧ (Evaluator.countCalls w.counts [_]).get? name = _
    rw [Evaluator.countCalls, List.foldl_cons, List.foldl_nil]
    split at hname
    · rw [List.mem_cons, not_or] at hname
      refine ⟨hname.2, ?_⟩
      split
      · rw [NameMap.get?_insert, if_neg hname.1]
      · rfl
    · next hsilent =>
      refine ⟨hname, ?_⟩
      rw [if_neg fun hcounted => hsilent (Bool.and_eq_true_iff.1 hcounted).1]
  | _ => exact ⟨hname, rfl⟩

namespace World.Run

variable {b : Booking} (run : World.Run e (fun _ : Unit => b) counts)

theorem get?_counts (k : Nat) {name : String} (hname : name ∉ ((run.world k).scene ()).called) :
    (run.world k).counts.get? name = counts.get? name := by
  induction k with
  | zero => rw [run.first, start]
  | succ k ih =>
    rcases (run.next k).cases with ⟨_, hmove⟩ | ⟨hlater, -⟩
    · obtain ⟨hbefore, hsame⟩ := hmove.get?_counts hname
      rw [hsame, ih hbefore]
    · rw [hlater] at hname ⊢
      exact ih hname

/-- With no other evaluation beside it, probes may keep state: the calls of an evaluation have the numbers that
follow the counts at its start. -/
theorem sound_solo (k : Nat) : Sound e counts b ((run.world k).scene ()) := by
  refine run.sound (i := ()) (fun k r _ hfirst => ?_) k
  rw [Booking.course, CallCounts.next_congr (run.get?_counts k hfirst)]

end World.Run

/-! ## Sequences -/

namespace Evaluator

/-- An evaluation of a sequence is what it is alone, but for its date. -/
structure SameAlone (e : Evaluator) (now : Int) (q : EvaluationRequest) (t : TimedEvaluation) :
    Prop where
  result : ∃ wall, t.evaluation = (e.evaluate .empty now q.selector q.limits).1.dated wall
  once : (t.evaluation.calls.map (·.check)).Sublist ((e.registry.select q.selector).map (·.name))

theorem Stateless.sameAlone (h : e.Stateless) (together : Bool) (now : Int)
    (p : Progress) (q : EvaluationRequest) :
    ∃ t, (p.step e together q).done = p.done ++ [t] ∧ e.SameAlone now q t := by
  refine ⟨_, rfl, ⟨p.wall + q.wallShift, ?_⟩, ?_⟩
  · rw [h.evaluate_eq p.counts .empty, evaluate_dated e .empty now]
  · exact sublist_calls

theorem Stateless.sequence (h : e.Stateless) (together : Bool) (now : Int)
    (requests : List EvaluationRequest) (p : Progress) :
    ∃ done, (requests.foldl (Progress.step e together) p).done = p.done ++ done ∧
      List.Forall₂ (e.SameAlone now) requests done := by
  induction requests generalizing p with
  | nil => exact ⟨[], (List.append_nil _).symm, .nil⟩
  | cons q requests ih =>
    obtain ⟨t, ht, hsame⟩ := h.sameAlone together now p q
    obtain ⟨done, hdone, hall⟩ := ih (p.step e together q)
    refine ⟨t :: done, ?_, .cons hsame hall⟩
    rw [List.foldl_cons, hdone, ht, List.append_assoc]
    rfl

/-- When probes keep no state between calls, evaluations on one evaluator do not disturb one another. In a
sequence, each comes to what it comes to alone on a fresh evaluator. When they overlap, whatever the turns of
their checks, each ends when it does alone and with the verdict that it has alone, its checks are cancelled by
nobody else, and it calls the probes of its checks once at most. -/
theorem evaluations_independent (h : e.Stateless) :
    (∀ together now requests,
      List.Forall₂ (e.SameAlone now) requests (e.evaluateAll together now requests)) ∧
    ∀ {ι : Type} [Fintype ι] [DecidableEq ι] (plan : ι → Booking) (counts : CallCounts),
      Nonempty (World.Run e plan counts) ∧
        ∀ (run : World.Run e plan counts) (i : ι), run.Undisturbed i := by
  refine ⟨fun together now requests => ?_, fun plan counts =>
    ⟨World.Run.nonempty e plan counts, fun run i => run.undisturbed h i⟩⟩
  obtain ⟨done, hdone, hall⟩ := h.sequence together now requests ⟨0, now, .empty, []⟩
  rw [evaluateAll, hdone]
  exact hall

/-- Two overlapping evaluations of all checks. The caller of the second cancels it after a millisecond; the
first is not touched. -/
theorem evaluations_independent_mixed : Stateless { registry := .mixed } ∧
    Nonempty (World.Run { registry := .mixed } (fun second : Bool =>
      if second then { startsAt := 1, limits := { cancelAt := some 1 } } else {}) .empty) ∧
    ∀ run : World.Run { registry := .mixed } (fun second : Bool =>
      if second then { startsAt := 1, limits := { cancelAt := some 1 } } else {}) .empty,
      ∃ k report, ∀ m ≥ k,
        (run.world m).stage false = .finished (.completed report) 3 ∧
        (run.world m).stage true = .finished .cancelled 2 ∧
        ¬ CancelToken.Cancelled (run.world m).cancelled (.check false "found") := by
  have hstateless : Stateless { registry := .mixed } := by
    intro r hr probe hsource m n ctx
    rcases hr with _ | ⟨_, _ | ⟨_, _ | ⟨_, hr⟩⟩⟩
    · cases hsource
      rfl
    · cases hsource
      rfl
    · cases hsource
    · cases hr
  obtain ⟨hrun, hall⟩ := (evaluations_independent hstateless).2 (fun second : Bool =>
    if second then { startsAt := 1, limits := { cancelAt := some 1 } } else {}) .empty
  refine ⟨hstateless, hrun, fun run => ?_⟩
  obtain ⟨k, hk⟩ := (hall run false).ends 3 rfl
  obtain ⟨k', hk'⟩ := (hall run true).ends 1 rfl
  refine ⟨max k k', _, fun m hm => ⟨hk m (by omega), hk' m (by omega), fun htoken => ?_⟩⟩
  rcases (hall run false).tokens m "found" htoken with hlate | hstop | hbefore | ⟨n, hcancel, -⟩
  · revert hlate
    decide
  · cases hstop
  · cases hbefore
  · cases hcancel

end Evaluator

end HealthWatch
