import HealthWatch.Proofs.Interleaving
/-!
# What is seen among others agrees with the evaluation alone

`Sound` ties what is seen of an evaluation among others to the same evaluation alone. It holds before anything
has begun (`Sound.start`), the evaluation's own moves keep it (`Sound.move`), and so does the tick of the clock
(`Sound.tick`), which cannot pass the end of an evaluation.
-/

namespace HealthWatch

open Evaluator (limit lastEnd)

variable {e : Evaluator} {counts : CallCounts} {b : Booking} {v : Scene} {waiting : List Registration}
  {live joined before after : List CheckCourse} {c : CheckCourse} {f l m n : Nat}

/-! ## An evaluation that is going on -/

/-- What is known of an evaluation that is going on. Once its caller has cancelled, its tasks may end in any
way. -/
structure UnderWay (e : Evaluator) (counts : CallCounts) (b : Booking) (v : Scene)
    (waiting : List Registration) (live joined : List CheckCourse) : Prop where
  goes : b.limits.stopsAtStart = false
  begun : b.startsAt ≤ v.clock
  inTime : ∀ l, limit b.limits = some l → v.clock ≤ b.startsAt + l
  lasts : ∀ f, lastEnd (b.courses e counts) = some f → v.clock ≤ b.startsAt + f
  running : ¬ v.stopped
  selected : ∀ r ∈ waiting, r ∈ e.registry.select b.selector
  fresh : (waiting.map (·.name) ++ v.called).Nodup
  tasks : ¬ v.withdrawn →
    (waiting.map (b.course e counts) ++ (live ++ joined)).Perm (b.courses e counts)
  ended : ¬ v.withdrawn → ∀ c ∈ joined, ∃ n, c.endsAt = some n ∧ b.startsAt + n ≤ v.clock
  overdue : ¬ v.withdrawn → ∀ name, name ∈ v.timedOut ↔
    ∃ c ∈ joined, c.check.name = name ∧ c.timeoutAt ≠ none

/-- Where an evaluation stands, compared with the same evaluation alone. -/
def Standing (e : Evaluator) (counts : CallCounts) (b : Booking) (v : Scene) : Stage → Prop
  | .ahead => v.clock ≤ b.startsAt ∧ ¬ v.stopped ∧ v.called = [] ∧ v.timedOut = ∅
  | .underWay waiting live joined => UnderWay e counts b v waiting live joined
  | .finished verdict endedAt => verdict = (b.result e counts).verdict ∧
      ∃ n, (b.result e counts).endsAt = some n ∧ endedAt = b.startsAt + n ∧ endedAt ≤ v.clock

namespace UnderWay

theorem mem_courses (hu : UnderWay e counts b v waiting live joined) (hstay : ¬ v.withdrawn)
    (hc : c ∈ live ∨ c ∈ joined) : c ∈ b.courses e counts :=
  (hu.tasks hstay).subset (List.mem_append_right _ (List.mem_append.2 hc))

/-- The token of a live check is cancelled only after the caller has withdrawn. -/
theorem not_overdue (hu : UnderWay e counts b v waiting live joined) (hstay : ¬ v.withdrawn)
    (hc : c ∈ live) : c.check.name ∉ v.timedOut := by
  intro hlate
  have hnodup : ((live ++ joined).map (·.check.name)).Nodup :=
    (((hu.tasks hstay).map (·.check.name)).nodup_iff.2 b.nodup_names_courses).sublist
      ((List.sublist_append_right _ _).map _)
  rw [List.map_append, List.nodup_append] at hnodup
  obtain ⟨late, hjoined, hname, -⟩ := (hu.overdue hstay _).1 hlate
  exact hnodup.2.2 _ (List.mem_map_of_mem hc) _ (List.mem_map_of_mem hjoined) hname.symm

/-- The checks are spawned. -/
theorem spawn (hahead : Standing e counts b v .ahead) (hgo : b.limits.stopsAtStart = false)
    (htime : b.startsAt ≤ v.clock) {s : Stage} :
    UnderWay e counts b { v with stage := s } (e.registry.select b.selector) [] [] := by
  obtain ⟨hclock, hrunning, hcalled, hquiet⟩ := hahead
  have hnow : v.clock = b.startsAt := Nat.le_antisymm hclock htime
  exact {
    goes := hgo
    begun := htime
    inTime := fun l _ => hnow ▸ Nat.le_add_right _ _
    lasts := fun f _ => hnow ▸ Nat.le_add_right _ _
    running := hrunning
    selected := fun r hr => hr
    fresh := by
      show (_ ++ v.called).Nodup
      rw [hcalled, List.append_nil]
      exact e.registry.nodup_names_select b.selector
    tasks := fun _ => by
      rw [List.append_nil, List.append_nil]
      exact .refl _
    ended := fun _ c hc => by cases hc
    overdue := fun _ name => by
      show name ∈ v.timedOut ↔ _
      simp [hquiet] }

/-- A task is joined. -/
theorem join (hu : UnderWay e counts b v waiting (before ++ c :: after) joined) {c' : CheckCourse}
    {late : Set String} {s : Stage} (hsame : ¬ v.withdrawn → c' = c)
    (hended : ¬ v.withdrawn → ∃ n, c.endsAt = some n ∧ b.startsAt + n ≤ v.clock)
    (hlate : ¬ v.withdrawn → ∀ name, name ∈ late ↔
      name ∈ v.timedOut ∨ (c.check.name = name ∧ c.timeoutAt ≠ none)) :
    UnderWay e counts b { v with stage := s, timedOut := late } waiting (before ++ after) (c' :: joined) where
  goes := hu.goes
  begun := hu.begun
  inTime := hu.inTime
  lasts := hu.lasts
  running := hu.running
  selected := hu.selected
  fresh := hu.fresh
  tasks hstay := by
    rw [hsame hstay]
    refine .trans (.append_left _ ?_) (hu.tasks hstay)
    rw [List.append_assoc, List.append_assoc]
    exact .append_left _ List.perm_middle
  ended hstay := by
    rw [hsame hstay]
    exact List.forall_mem_cons.2 ⟨hended hstay, hu.ended hstay⟩
  overdue hstay name := by
    have hrest := hu.overdue hstay name
    rw [hsame hstay]
    simp only [List.mem_cons, exists_eq_or_imp]
    rw [← hrest, or_comm]
    exact hlate hstay name

/-- A task has its first turn. -/
theorem poll {r : Registration} {early rest : List Registration}
    (hu : UnderWay e counts b v (early ++ r :: rest) live joined) {s : Stage} :
    UnderWay e counts b { v with
        stage := s
        called := if (b.course e counts r).called then r.name :: v.called else v.called }
      (early ++ rest) (b.course e counts r :: live) joined where
  goes := hu.goes
  begun := hu.begun
  inTime := hu.inTime
  lasts := hu.lasts
  running := hu.running
  selected q hq := hu.selected q
    (((List.sublist_cons_self _ _).append_left _).subset hq)
  fresh := by
    have hfresh : (r.name :: ((early ++ rest).map (·.name) ++ v.called)).Nodup := by
      refine (List.Perm.nodup_iff ?_).2 hu.fresh
      simp only [List.map_append, List.map_cons, List.append_assoc]
      exact List.perm_middle.symm
    split
    · exact List.perm_middle.nodup_iff.2 hfresh
    · exact hfresh.of_cons
  tasks hstay := by
    refine .trans ?_ (hu.tasks hstay)
    simp only [List.map_append, List.map_cons, List.append_assoc, List.cons_append]
    exact .append_left _ List.perm_middle
  ended := hu.ended
  overdue := hu.overdue

/-- An evaluation that is stopped among others is stopped at the same time when it is alone. -/
theorem stop (hu : UnderWay e counts b v waiting live joined) (hl : limit b.limits = some l) (hlm : l ≤ m)
    (hdue : b.startsAt + m ≤ v.clock) : Standing e counts b v (.finished .cancelled v.clock) := by
  -- The clock can be past neither the limit nor the last end, so the limit is now and comes first.
  have hclock := hu.inTime l hl
  have hresult := Booking.result_of_limit (e := e) hu.goes hl fun f hf => by
    have hlast := hu.lasts f hf
    omega
  obtain ⟨hverdict, hend⟩ := Prod.mk.inj hresult
  exact ⟨hverdict.symm, l, hend, by omega, Nat.le_refl _⟩

/-- An evaluation of which all tasks have been joined completes as it does alone. -/
theorem complete (hu : UnderWay e counts b v [] [] joined) (hstay : ¬ v.withdrawn)
    (htime : b.startsAt + f = v.clock) (hleave : (limit b.limits).all (f < ·) = true)
    {selected : List CheckCourse} (hjoined : joined.Perm selected) :
    Standing e counts b v (.finished (.completed ⟨Evaluator.gather (.ofMillis f) selected joined,
      .ofMillis f, b.wall⟩) v.clock) := by
  have hall : joined.Perm (b.courses e counts) := hu.tasks hstay
  -- Every task has ended by now, and the clock cannot be past the last end.
  obtain ⟨f', hle, hf'⟩ := latest_le (l := (b.courses e counts).map (·.endsAt)) (b := f) fun a ha => by
    obtain ⟨c, hc, rfl⟩ := List.mem_map.1 ha
    obtain ⟨n, hn, hdue⟩ := hu.ended hstay c (hall.symm.subset hc)
    exact ⟨n, by omega, hn⟩
  have hlast := hu.lasts f' hf'
  obtain rfl : f' = f := by omega
  obtain ⟨hverdict, hend⟩ := Prod.mk.inj (Booking.result_of_last hu.goes hf' hleave)
  rw [Evaluator.gather_perm hjoined (.refl _) (hjoined.symm.trans hall)
    ((hjoined.symm.trans hall).map _ |>.nodup_iff.2 b.nodup_names_courses)]
  exact ⟨hverdict.symm, f', hend, htime.symm, Nat.le_refl _⟩

end UnderWay

/-! ## Every scene agrees with the evaluation alone -/

/-- The next call of each check that an evaluation has not called yet is the one that it makes alone. -/
def World.Numbered {ι : Type} [DecidableEq ι] (e : Evaluator) (counts : CallCounts) (b : Booking)
    (i : ι) (w : World ι) : Prop :=
  ∀ r ∈ e.registry.select b.selector, r.name ∉ (w.scene i).called →
    CheckCourse.ofCheck e b.limits.deadline (w.counts.next r) r = b.course e counts r

theorem Evaluator.Stateless.numbered {ι : Type} [DecidableEq ι] (h : e.Stateless) (b : Booking)
    (i : ι) (w : World ι) : w.Numbered e counts b i :=
  fun _ hr _ => h.ofCheck_next (List.mem_filter.1 hr).1 _ _ _

/-- What is seen of an evaluation among others agrees with the evaluation alone. -/
structure Sound (e : Evaluator) (counts : CallCounts) (b : Booking) (v : Scene) : Prop where
  standing : Standing e counts b v v.stage
  withdrawn : v.withdrawn → b.limits.cancelledBefore = true ∨
    ∃ n, b.limits.cancelAt = some n ∧ b.startsAt + n ≤ v.clock
  stopped : v.stopped → (b.result e counts).verdict = .cancelled
  overdue : ∀ name ∈ v.timedOut, ∃ call ∈ (b.result e counts).calls,
    call.check = name ∧ ∃ t, call.timeoutAt = some t ∧ b.startsAt + t ≤ v.clock
  once : v.called.Nodup
  known : ∀ name ∈ v.called, name ∈ (b.result e counts).calls.map (·.check)

namespace Sound

theorem standing_of {s : Stage} (hs : Sound e counts b v) (hstage : v.stage = s) : Standing e counts b v s :=
  hstage ▸ hs.standing

theorem underWay (hs : Sound e counts b v) (hstage : v.stage = .underWay waiting live joined) :
    UnderWay e counts b v waiting live joined :=
  hs.standing_of hstage

/-- Only the probes of selected checks are called. -/
theorem selected (hs : Sound e counts b v) :
    ∀ name ∈ v.called, name ∈ (e.registry.select b.selector).map (·.name) :=
  fun name hname => Evaluator.sublist_calls.subset (hs.known name hname)

/-- The caller of an evaluation that is going on has not cancelled before the start. -/
theorem cancelAt_of_withdrawn (hs : Sound e counts b v) (hu : UnderWay e counts b v waiting live joined)
    (hw : v.withdrawn) : ∃ n, b.limits.cancelAt = some n ∧ b.startsAt + n ≤ v.clock := by
  rcases hs.withdrawn hw with hbefore | hdue
  · have hgoes := hu.goes
    rw [EvaluationLimits.stopsAtStart, hbefore] at hgoes
    cases hgoes
  · exact hdue

/-- Before the limit of an evaluation its caller has not cancelled. -/
theorem not_withdrawn (hs : Sound e counts b v) (hu : UnderWay e counts b v waiting live joined)
    (htime : b.startsAt + f = v.clock) (hleave : (limit b.limits).all (f < ·) = true) :
    ¬ v.withdrawn := by
  intro hw
  obtain ⟨n, hcancel, hdue⟩ := hs.cancelAt_of_withdrawn hu hw
  have hlater := (Evaluator.all_lt_limit_iff.1 hleave).2 n hcancel
  omega

variable {ι : Type} [DecidableEq ι] {plan : ι → Booking} {w w' : World ι} {i : ι}

theorem start (e : Evaluator) (counts counts' : CallCounts) (plan : ι → Booking) (i : ι) :
    Sound e counts (plan i) ((World.start counts' plan).scene i) where
  standing := ⟨Nat.zero_le _, by simp [World.scene, World.start], rfl, by
    simp [World.scene, World.start]⟩
  withdrawn h := by
    obtain ⟨j, hj, hbefore⟩ := h
    cases hj
    exact .inl hbefore
  stopped h := by
    obtain ⟨j, hj, -⟩ := h
    cases hj
  overdue name h := by
    obtain ⟨j, hj, -⟩ := h
    cases hj
  once := .nil
  known name h := by cases h

/-- An evaluation that goes on. -/
theorem goOn {calls : List String} {late : Set String} (hs : Sound e counts b v)
    (hu : UnderWay e counts b { v with
      stage := .underWay waiting live joined, called := calls, timedOut := late } waiting live joined)
    (hoverdue : ∀ name ∈ late, name ∈ v.timedOut ∨ ∃ call ∈ (b.result e counts).calls,
      call.check = name ∧ ∃ t, call.timeoutAt = some t ∧ b.startsAt + t ≤ v.clock)
    (hknown : ∀ name ∈ calls, name ∈ v.called ∨
      name ∈ (b.result e counts).calls.map (·.check)) :
    Sound e counts b { v with
      stage := .underWay waiting live joined, called := calls, timedOut := late } where
  standing := hu
  withdrawn := hs.withdrawn
  stopped hstop := absurd hstop hu.running
  overdue name hname := (hoverdue name hname).elim (hs.overdue name) id
  once := (List.nodup_append.1 hu.fresh).2.1
  known name hname := (hknown name hname).elim (hs.known name) id

/-- An evaluation that ends. -/
theorem finish {verdict : Verdict} {stop : Prop} (hs : Sound e counts b v)
    (hfinished : Standing e counts b v (.finished verdict v.clock))
    (hstop : stop → v.stopped ∨ verdict = .cancelled) :
    Sound e counts b { v with stage := .finished verdict v.clock, stopped := stop } where
  standing := hfinished
  withdrawn := hs.withdrawn
  stopped hstopped := (hstop hstopped).elim hs.stopped fun hcancelled => hfinished.1 ▸ hcancelled
  overdue := hs.overdue
  once := hs.once
  known := hs.known

theorem withdraw (hs : Sound e counts b v) (hstage : v.stage ≠ .ahead)
    (hdue : ∃ n, b.limits.cancelAt = some n ∧ b.startsAt + n ≤ v.clock) :
    Sound e counts b { v with withdrawn := True } where
  standing := by
    show Standing e counts b { v with withdrawn := True } v.stage
    cases hv : v.stage with
    | ahead => exact absurd hv hstage
    | underWay waiting live joined =>
      exact { hs.underWay hv with
        tasks := fun hstay => absurd trivial hstay
        ended := fun hstay => absurd trivial hstay
        overdue := fun hstay => absurd trivial hstay }
    | finished verdict endedAt => exact hs.standing_of hv
  withdrawn _ := .inr hdue
  stopped := hs.stopped
  overdue := hs.overdue
  once := hs.once
  known := hs.known

/-- What an evaluation does agrees with what it does alone. -/
theorem move (hn : w.Numbered e counts (plan i) i) (h : Move e plan i w w')
    (hs : Sound e counts (plan i) (w.scene i)) : Sound e counts (plan i) (w'.scene i) := by
  cases h with
  | refuse hstage htime hstop =>
    have hahead : Standing e counts (plan i) (w.scene i) .ahead := hs.standing_of hstage
    have hnow : (w.scene i).clock = (plan i).startsAt := Nat.le_antisymm hahead.1 htime
    rw [World.scene_cancel_evaluation, World.scene_become_self]
    refine hs.finish ⟨?_, 0, ?_, hnow, Nat.le_refl _⟩ fun _ => .inr rfl
    · rw [Booking.result_of_stop hstop]
      rfl
    · rw [Booking.result_of_stop hstop]
      rfl
  | begin hstage htime hgo =>
    rw [World.scene_become_self]
    exact hs.goOn (.spawn (hs.standing_of hstage) hgo htime) (fun _ => .inl) (fun _ => .inl)
  | @poll early rest r live joined hstage =>
    have hu := hs.underWay hstage
    have hselected := hu.selected r (List.mem_append_right _ List.mem_cons_self)
    -- It has not been called by this evaluation before.
    have hfirst : r.name ∉ (w.scene i).called := fun hcalled =>
      (List.nodup_append.1 hu.fresh).2.2 _
        (List.mem_map_of_mem (List.mem_append_right _ List.mem_cons_self)) _ hcalled rfl
    rw [hn r hselected hfirst, World.scene_become_self, World.scene_call_self, Booking.check_course]
    refine hs.goOn hu.poll (fun _ => .inl) fun name hname => ?_
    split at hname
    · next hcalled =>
      rcases List.mem_cons.1 hname with rfl | hname
      · refine .inr (List.mem_map.2 ⟨_, (Booking.mem_calls_result_iff hu.goes).2
          ⟨_, List.mem_map_of_mem hselected, hcalled, rfl⟩, ?_⟩)
        rw [Booking.check_course]
      · exact .inl hname
    · exact .inl hname
  | report hstage hend hdue hquiet _ =>
    rw [World.scene_become_self]
    refine hs.goOn ((hs.underWay hstage).join (fun _ => rfl) (fun _ => ⟨_, hend, hdue⟩)
      fun _ name => ?_) (fun _ => .inl) (fun _ => .inl)
    simp [hquiet]
  | @timeOut _ _ _ _ c _ hstage hend hdue hlate htoken =>
    have hu := hs.underWay hstage
    have hstay : ¬ (w.scene i).withdrawn := fun hw =>
      htoken (CancelToken.cancelled_check_iff.2 (.inr (.inr hw)))
    have hcourse := hu.mem_courses hstay (.inl (List.mem_append_right _ List.mem_cons_self))
    rw [World.scene_cancel_check, World.scene_become_self]
    refine hs.goOn (hu.join (fun _ => rfl) (fun _ => ⟨_, hend, hdue⟩) fun _ name => ?_)
      (fun name hname => ?_) (fun _ => .inl)
    · rw [Set.mem_insert_iff, or_comm, eq_comm]
      simp [hlate]
    · rcases hname with rfl | hname
      · obtain ⟨t, ht⟩ := Option.ne_none_iff_exists'.1 hlate
        have hsame := Booking.endsAt_of_timeoutAt hcourse ht
        rw [hend] at hsame
        cases hsame
        exact .inr ⟨_, (Booking.mem_calls_result_iff hu.goes).2
          ⟨c, hcourse, Booking.called_of_late hcourse hlate, rfl⟩, rfl, _, ht, hdue⟩
      · exact .inl hname
  | stray hstage c' _ htoken =>
    have hu := hs.underWay hstage
    -- Only the caller can have cancelled the token of a task that has not been joined.
    have hw : (w.scene i).withdrawn := by
      by_contra hstay
      rcases CancelToken.cancelled_check_iff.1 htoken with hlate | hstop | hw
      · exact hu.not_overdue hstay (List.mem_append_right _ List.mem_cons_self) hlate
      · exact hu.running hstop
      · exact hstay hw
    rw [World.scene_become_self]
    exact hs.goOn (hu.join (fun hstay => absurd hw hstay) (fun hstay => absurd hw hstay)
      fun hstay => absurd hw hstay) (fun _ => .inl) (fun _ => .inl)
  | withdraw hstage hcancel hdue _ =>
    rw [World.scene_cancel_caller]
    exact hs.withdraw hstage ⟨_, hcancel, hdue⟩
  | abandon hstage htoken =>
    have hu := hs.underWay hstage
    obtain ⟨n, hcancel, hdue⟩ := hs.cancelAt_of_withdrawn hu (CancelToken.cancelled_caller_iff.1 htoken)
    obtain ⟨l, hle, hl⟩ := Evaluator.limit_le_cancelAt hcancel
    rw [World.scene_cancel_evaluation, World.scene_become_self]
    exact hs.finish (hu.stop hl hle hdue) fun _ => .inr rfl
  | expire hstage hdeadline hdue =>
    obtain ⟨l, hle, hl⟩ := Evaluator.limit_le_deadline hdeadline
    rw [World.scene_cancel_evaluation, World.scene_become_self]
    exact hs.finish ((hs.underWay hstage).stop hl hle hdue) fun _ => .inr rfl
  | complete hstage htime hleave hjoined _ =>
    have hu := hs.underWay hstage
    rw [World.scene_become_self]
    exact hs.finish (hu.complete (hs.not_withdrawn hu htime hleave) htime hleave hjoined) .inl

end Sound

/-! ## The clock cannot pass the end of an evaluation -/

section Due
variable {ι : Type} [DecidableEq ι] {plan : ι → Booking} {w w' : World ι} {i : ι}

/-- At the limit of an evaluation there is something left to do. -/
theorem Move.exists_of_limit (hstage : w.stage i = .underWay waiting live joined)
    (hl : limit (plan i).limits = some l) (hdue : (plan i).startsAt + l ≤ w.clock) :
    ∃ w', Move e plan i w w' := by
  rcases Evaluator.limit_cases hl with ⟨d, hdeadline, rfl⟩ | hcancel
  · exact ⟨_, .expire hstage hdeadline hdue⟩
  · by_cases hw : CancelToken.caller i ∈ w.cancelled
    · exact ⟨_, .abandon hstage (.itself hw)⟩
    · refine ⟨_, .withdraw ?_ hcancel hdue hw⟩
      rw [hstage]
      exact Stage.noConfusion

/-- When the last check of an evaluation has ended there is something left to do. -/
theorem Move.exists_of_last (hu : UnderWay e counts (plan i) (w.scene i) waiting live joined)
    (hstage : w.stage i = .underWay waiting live joined)
    (hf : lastEnd ((plan i).courses e counts) = some f) (hdue : (plan i).startsAt + f ≤ w.clock) :
    ∃ w', Move e plan i w w' := by
  by_cases hw : CancelToken.caller i ∈ w.cancelled
  · exact ⟨_, .abandon hstage (.itself hw)⟩
  -- What is left to do is a first turn, then a task to join, then the end.
  match waiting, live with
  | r :: rest, live =>
    have hwaiting : w.stage i = .underWay ([] ++ r :: rest) live joined := hstage
    exact ⟨_, .poll hwaiting⟩
  | [], c :: rest =>
    have hlive : w.stage i = .underWay [] ([] ++ c :: rest) joined := hstage
    obtain ⟨n, hn, hend⟩ := (latest_eq_some_iff.1 hf).1 _
      (List.mem_map_of_mem (hu.mem_courses hw (.inl List.mem_cons_self)))
    by_cases htoken : CancelToken.Cancelled w.cancelled (.check i c.check.name)
    · exact ⟨_, .stray hlive c rfl htoken⟩
    · by_cases hquiet : c.timeoutAt = none
      · exact ⟨_, .report hlive hend (by omega) hquiet htoken⟩
      · exact ⟨_, .timeOut hlive hend (by omega) hquiet htoken⟩
  | [], [] =>
    have hnow : (plan i).startsAt + f = w.clock := Nat.le_antisymm hdue (hu.lasts f hf)
    by_cases hleave : (limit (plan i).limits).all (f < ·) = true
    · exact ⟨_, .complete hstage hnow hleave (hu.tasks hw) Booking.checks_courses⟩
    · obtain ⟨l, hl, hle⟩ : ∃ l, limit (plan i).limits = some l ∧ l ≤ f := by
        simpa [Option.all_eq_true] using hleave
      exact Move.exists_of_limit hstage hl (by omega)

/-- When the clock moves on, no evaluation is late. -/
theorem Sound.tick (hs : Sound e counts (plan i) (w.scene i)) (hidle : ∀ w', ¬ Move e plan i w w') :
    Sound e counts (plan i) (w.later.scene i) := by
  rw [World.scene_later]
  refine ⟨?_, fun hw => ?_, hs.stopped, fun name hname => ?_, hs.once, hs.known⟩
  · show Standing e counts (plan i) { w.scene i with clock := w.clock + 1 } (w.stage i)
    cases hstage : w.stage i with
    | ahead =>
      have hahead : Standing e counts (plan i) (w.scene i) .ahead := hs.standing_of hstage
      refine ⟨Nat.succ_le_of_lt (Nat.lt_of_not_le fun hdue => ?_), hahead.2⟩
      cases hstop : (plan i).limits.stopsAtStart with
      | true => exact hidle _ (.refuse hstage hdue hstop)
      | false => exact hidle _ (.begin hstage hdue hstop)
    | underWay waiting live joined =>
      have hu := hs.underWay hstage
      exact { hu with
        begun := Nat.le_succ_of_le hu.begun
        inTime := fun l hl => Nat.succ_le_of_lt (Nat.lt_of_not_le fun hdue =>
          (Move.exists_of_limit hstage hl hdue).elim hidle)
        lasts := fun f hf => Nat.succ_le_of_lt (Nat.lt_of_not_le fun hdue =>
          (Move.exists_of_last hu hstage hf hdue).elim hidle)
        ended := fun hstay c hc =>
          let ⟨n, hn, hdue⟩ := hu.ended hstay c hc
          ⟨n, hn, Nat.le_succ_of_le hdue⟩ }
    | finished verdict endedAt =>
      obtain ⟨hverdict, n, hend, hat, hle⟩ := hs.standing_of hstage
      exact ⟨hverdict, n, hend, hat, Nat.le_succ_of_le hle⟩
  · exact (hs.withdrawn hw).imp_right fun ⟨n, hcancel, hdue⟩ =>
      ⟨n, hcancel, Nat.le_succ_of_le hdue⟩
  · obtain ⟨call, hcall, hcheck, t, ht, hdue⟩ := hs.overdue name hname
    exact ⟨call, hcall, hcheck, t, ht, Nat.le_succ_of_le hdue⟩

end Due

end HealthWatch
