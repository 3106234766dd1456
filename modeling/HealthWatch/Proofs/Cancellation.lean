import HealthWatch.Broadcaster
import HealthWatch.Proofs.Deadlines
import HealthWatch.Proofs.Independence
/-!
# Which probes are told to stop

The token of a check is below that of its evaluation, and this is below that of the caller. What an evaluation
has done to them when it returns depends on how it returns: `Move.ends_cases` says what its last move was. When
the evaluation completes, only the tokens of the calls that timed out have been cancelled; when it is cancelled,
those of all calls. An evaluation that is dropped on its way leaves the tokens as they are.
-/

namespace HealthWatch

/-- The caller has cancelled before the start, or there is no time at all. -/
def EvaluationLimits.Forestalled (o : EvaluationLimits) : Prop :=
  o.cancelledBefore = true ∨ ∃ d, o.deadline = some d ∧ d.nanos = 0

theorem EvaluationLimits.Forestalled.stopsAtStart {o : EvaluationLimits} (h : o.Forestalled) :
    o.stopsAtStart = true := by
  refine stopsAtStart_iff.2 (h.imp_right ?_)
  rintro ⟨d, hd, hzero⟩
  exact ⟨d, hd, Duration.ceilMillis_eq_zero_iff.2 hzero⟩

/-! ## Calls that time out -/

namespace Evaluator

variable {e : Evaluator} {counts : CallCounts} {now : Int} {s : Selector} {o : EvaluationLimits}
  {r : Registration} {deadline : Option Duration} {t : Nat}

/-- The timer of a call fires at an instant, with the call still going: the timeout of the check, or the
deadline when that is shorter. -/
structure Fires (e : Evaluator) (counts : CallCounts) (deadline : Option Duration) (r : Registration)
    (t : Nat) : Prop where
  timer : ∃ d, shorter? (e.timeout r) deadline = some d ∧ d.ceilMillis = t
  call : ∃ probe, r.source.probe e.services = .ok probe ∧
    ∀ n, (probe.call (counts.next r) r.context).endsAfter = some n → t < n

theorem timeoutAt_ofCheck_iff :
    (CheckCourse.ofCheck e deadline (counts.next r) r).timeoutAt = some t ↔
      e.Fires counts deadline r t := by
  cases hp : r.source.probe e.services with
  | error fault =>
    refine ⟨fun h => ?_, fun ⟨_, probe, hprobe, _⟩ => ?_⟩
    · simp only [CheckCourse.ofCheck, hp] at h
      cases h
    · rw [hp] at hprobe
      cases hprobe
  | ok probe =>
    simp only [CheckCourse.ofCheck, hp, Option.ite_none_right_eq_some]
    constructor
    · rintro ⟨hlate, ht⟩
      rw [ht] at hlate
      exact ⟨Option.map_eq_some_iff.1 ht, probe, hp, timesOut_iff.1 hlate⟩
    · rintro ⟨⟨d, hd, rfl⟩, probe', hp', hcall⟩
      rw [hp] at hp'
      cases hp'
      rw [hd]
      exact ⟨timesOut_iff.2 hcall, rfl⟩

/-- Without a deadline it is the timeout of the check that fires. -/
theorem fires_none_iff : e.Fires counts none r t ↔ ∃ d, e.RunsOut counts r d ∧ d.ceilMillis = t := by
  constructor
  · rintro ⟨⟨d, hd, rfl⟩, hcall⟩
    rw [shorter?_none] at hd
    exact ⟨d, ⟨hd, hcall⟩, rfl⟩
  · rintro ⟨d, hruns, rfl⟩
    exact ⟨⟨d, (shorter?_none _).trans hruns.timeout, rfl⟩, hruns.call⟩

/-- In an evaluation that completes the calls that time out are those that do so by themselves. -/
theorem timeoutAt_of_completed {report : Report}
    (hv : (e.evaluate counts now s o).1.verdict = .completed report) (hr : r ∈ e.registry.select s) :
    (CheckCourse.ofCheck e o.deadline (counts.next r) r).timeoutAt ≠ none ↔
      ∃ d, e.RunsOut counts r d := by
  obtain ⟨f, hf, hleave, -⟩ := completed_iff.1 hv
  obtain ⟨n, hn, hown⟩ := le_of_lastOwnEnd ((lastEnd_courses_iff hleave.deadline).1 hf) hr
  rw [CheckCourse.ofCheck_before_deadline hown fun d hd => Nat.lt_of_le_of_lt hn (hleave.deadline d hd),
    Option.ne_none_iff_exists']
  simp only [timeoutAt_ofCheck_iff, fires_none_iff]
  exact ⟨fun ⟨_, d, hruns, _⟩ => ⟨d, hruns⟩, fun ⟨d, hruns⟩ => ⟨_, d, hruns, rfl⟩⟩

/-- Cancellation has reached the right ones of the called checks when an evaluation returns with a verdict. -/
structure Reaches (e : Evaluator) (counts : CallCounts) (s : Selector) (verdict : Verdict)
    (called : List String) (told : String → Prop) : Prop where
  selected : ∀ name ∈ called, name ∈ (e.registry.select s).map (·.name)
  completed : (∃ report, verdict = .completed report) → ∀ r ∈ e.registry.select s,
    told r.name ↔ ∃ d, e.RunsOut counts r d
  cancelled : verdict = .cancelled → ∀ name ∈ called, told name

end Evaluator

namespace Booking

variable {b : Booking} {e : Evaluator} {counts : CallCounts} {r : Registration}

theorem exists_course_iff (hr : r ∈ e.registry.select b.selector) {p : CheckCourse → Prop} :
    (∃ c ∈ b.courses e counts, c.check.name = r.name ∧ p c) ↔ p (b.course e counts r) := by
  constructor
  · rintro ⟨c, hc, hname, hp⟩
    obtain ⟨q, hq, rfl⟩ := List.mem_map.1 hc
    rw [check_course] at hname
    obtain rfl := List.inj_on_of_nodup_map (e.registry.nodup_names_select b.selector) hq hr hname
    exact hp
  · intro hp
    exact ⟨_, List.mem_map_of_mem hr, by rw [check_course], hp⟩

/-- By an instant the timer of the call of a check has fired. -/
def TimedOutBy (b : Booking) (e : Evaluator) (counts : CallCounts) (instant : Nat) (name : String) :
    Prop :=
  ∃ r ∈ e.registry.select b.selector, r.name = name ∧
    ∃ t, e.Fires counts b.limits.deadline r t ∧ b.startsAt + t ≤ instant

theorem timedOutBy_of_call {call : StartedCall} (hcall : call ∈ (b.result e counts).calls) {t : Nat}
    (ht : call.timeoutAt = some t) {instant : Nat} (hdue : b.startsAt + t ≤ instant) :
    b.TimedOutBy e counts instant call.check := by
  cases hstop : b.limits.stopsAtStart with
  | true =>
    rw [result_of_stop hstop] at hcall
    cases hcall
  | false =>
    obtain ⟨c, hc, -, rfl⟩ := (mem_calls_result_iff hstop).1 hcall
    obtain ⟨r, hr, rfl⟩ := List.mem_map.1 hc
    exact ⟨r, hr, by rw [check_course], t, Evaluator.timeoutAt_ofCheck_iff.1 ht, hdue⟩

theorem reaches_result (b : Booking) (e : Evaluator) (counts : CallCounts) :
    e.Reaches counts b.selector (b.result e counts).verdict ((b.result e counts).calls.map (·.check))
      fun name => ∃ call ∈ (b.result e counts).calls,
        call.check = name ∧ (b.result e counts).cancels call = true where
  selected _ hname := Evaluator.sublist_calls.subset hname
  completed hcompleted r hr := by
    obtain ⟨report, hv⟩ := hcompleted
    have hgo : b.limits.stopsAtStart = false := by
      by_contra hstop
      rw [result_of_stop (Bool.eq_true_of_not_eq_false hstop)] at hv
      cases hv
    rw [← Evaluator.timeoutAt_of_completed hv hr]
    refine Iff.trans ?_ (@exists_course_iff b e counts r hr (·.timeoutAt ≠ none))
    simp only [mem_calls_result_iff hgo, Evaluation.cancels, hv, Option.isSome_iff_ne_none]
    constructor
    · rintro ⟨_, ⟨c, hc, -, rfl⟩, hname, hlate⟩
      exact ⟨c, hc, hname, hlate⟩
    · rintro ⟨c, hc, hname, hlate⟩
      exact ⟨_, ⟨c, hc, called_of_late hc hlate, rfl⟩, hname, hlate⟩
  cancelled hv name hname := by
    obtain ⟨call, hcall, rfl⟩ := List.mem_map.1 hname
    refine ⟨call, hcall, rfl, ?_⟩
    rw [Evaluation.cancels, hv]

theorem calls_of_forestalled (h : b.limits.Forestalled) : (b.result e counts).calls = [] := by
  rw [result_of_stop h.stopsAtStart]
  rfl

end Booking

/-! ## The tokens when an evaluation returns -/

section Returns
variable {e : Evaluator} {ι : Type} [DecidableEq ι] {plan : ι → Booking} {counts counts' : CallCounts}
  {w w' : World ι} {i : ι} {verdict : Verdict} {endedAt : Nat}

/-- An evaluation has not returned. -/
def World.Going (w : World ι) (i : ι) : Prop :=
  ∀ verdict endedAt, w.stage i ≠ .finished verdict endedAt

/-- An evaluation either cancels its token and with it those of all its checks, or it completes before its limit
and cancels none. -/
theorem Move.ends_cases (h : Move e plan i w w') (hgoing : w.Going i)
    (hdone : w'.stage i = .finished verdict endedAt) :
    (verdict = .cancelled ∧ .evaluation i ∈ w'.cancelled) ∨
      ∃ joined f, w.stage i = .underWay [] [] joined ∧ (plan i).startsAt + f = w.clock ∧
        (Evaluator.limit (plan i).limits).all (f < ·) = true ∧
        (∃ report, verdict = .completed report) ∧ w'.cancelled = w.cancelled := by
  cases h with
  | refuse | abandon | expire =>
    have hverdict : Stage.finished .cancelled w.clock = .finished verdict endedAt := by
      simpa [World.become, World.cancel] using hdone
    cases hverdict
    exact .inl ⟨rfl, Set.mem_insert _ _⟩
  | begin | poll | report | timeOut | stray =>
    simp [World.become, World.cancel] at hdone
  | withdraw => exact absurd hdone (hgoing verdict endedAt)
  | @complete joined _ f hstage htime hleave =>
    refine .inr ⟨joined, f, hstage, htime, hleave, ?_, rfl⟩
    have hverdict := (Function.update_self (β := fun _ => Stage) i _ w.stage).symm.trans hdone
    exact ⟨_, (Stage.finished.inj hverdict).1.symm⟩

/-- When an evaluation returns among others, cancellation has reached the right calls. -/
theorem Move.reaches (h : Move e plan i w w') (hs : Sound e counts (plan i) (w.scene i))
    (hs' : Sound e counts (plan i) (w'.scene i)) (hgoing : w.Going i)
    (hdone : w'.stage i = .finished verdict endedAt) :
    e.Reaches counts (plan i).selector verdict (w'.scene i).called
      fun name => CancelToken.Cancelled w'.cancelled (.check i name) := by
  refine ⟨hs'.selected, ?_, ?_⟩
  · rintro ⟨report, rfl⟩ r hr
    obtain ⟨hcancelled, -⟩ | ⟨joined, f, hstage, htime, hleave, -, hsame⟩ := h.ends_cases hgoing hdone
    · cases hcancelled
    have hu := hs.underWay hstage
    have hstay := hs.not_withdrawn hu htime hleave
    have hverdict := (hs'.standing_of hdone).1
    -- All tasks have been joined, so a timeout has been noticed if there was one.
    have hjoined : joined.Perm ((plan i).courses e counts) := hu.tasks hstay
    have hlate : .check i r.name ∈ w.cancelled ↔ ((plan i).course e counts r).timeoutAt ≠ none := by
      refine (hu.overdue hstay r.name).trans ?_
      simp only [hjoined.mem_iff]
      exact Booking.exists_course_iff hr
    have hrunning : .evaluation i ∉ w.cancelled := hu.running
    have hwithdrawn : .caller i ∉ w.cancelled := hstay
    rw [CancelToken.cancelled_check_iff, hsame, hlate, or_iff_left (not_or.2 ⟨hrunning, hwithdrawn⟩)]
    exact Evaluator.timeoutAt_of_completed hverdict.symm hr
  · rintro rfl name -
    rcases h.ends_cases hgoing hdone with ⟨-, htoken⟩ | ⟨-, -, -, -, -, ⟨report, hreport⟩, -⟩
    · exact .inherited rfl (.itself htoken)
    · cases hreport

/-- The world after an evaluation has been dropped: its tasks are gone, and no token is cancelled by that. -/
def World.drop (w : World ι) (i : ι) : World ι := w.become i (.finished .pending w.clock)

/-- While an evaluation is going on, its checks are cancelled by their own timeouts or by the caller. -/
theorem Sound.tokens_of_going {b : Booking} (hs : Sound e counts b (w.scene i)) (hgoing : w.Going i)
    {name : String} (htoken : CancelToken.Cancelled w.cancelled (.check i name)) :
    .caller i ∈ w.cancelled ∨ b.TimedOutBy e counts w.clock name := by
  rcases CancelToken.cancelled_check_iff.1 htoken with hlate | hstop | hwithdrawn
  · obtain ⟨call, hcall, rfl, t, ht, hdue⟩ := hs.overdue name hlate
    exact .inr (Booking.timedOutBy_of_call hcall ht hdue)
  · have hrunning : .evaluation i ∉ w.cancelled := by
      cases hstage : w.stage i with
      | ahead => exact (hs.standing_of hstage).2.1
      | underWay => exact (hs.underWay hstage).running
      | finished verdict endedAt => exact absurd hstage (hgoing verdict endedAt)
    exact absurd hstop hrunning
  · exact .inl hwithdrawn

namespace World.Run

variable (run : World.Run e plan counts)

/-- An evaluation returns with a step of a run. -/
structure Returns (run : World.Run e plan counts) (i : ι) (k : Nat) (verdict : Verdict)
    (endedAt : Nat) : Prop where
  going : (run.world k).Going i
  returned : (run.world (k + 1)).stage i = .finished verdict endedAt

/-- The step is a move of the evaluation itself. -/
theorem Returns.move {run : World.Run e plan counts} {k : Nat} (h : run.Returns i k verdict endedAt) :
    Move e plan i (run.world k) (run.world (k + 1)) := by
  rcases (run.next k).cases with ⟨j, hmove⟩ | ⟨hlater, -⟩
  · by_cases hij : i = j
    · subst hij
      exact hmove
    · have hscene := congrArg Scene.stage (World.scene_move_of_ne hmove hij)
      exact absurd (hscene.symm.trans h.returned) (h.going verdict endedAt)
  · have hreturned := h.returned
    rw [hlater] at hreturned
    exact absurd hreturned (h.going verdict endedAt)

theorem exists_returns {k : Nat} (h : ¬ (run.world k).Going i) :
    ∃ m verdict endedAt, run.Returns i m verdict endedAt := by
  induction k with
  | zero =>
    rw [run.first] at h
    exact absurd (fun _ _ => Stage.noConfusion) h
  | succ k ih =>
    by_cases hgoing : (run.world k).Going i
    · simp only [World.Going, not_forall, not_not] at h
      obtain ⟨verdict, endedAt, hdone⟩ := h
      exact ⟨k, verdict, endedAt, hgoing, hdone⟩
    · exact ih hgoing

end World.Run

end Returns

/-! ## An evaluation that has the evaluator to itself -/

namespace World.Run

variable {e : Evaluator} {b : Booking} {counts : CallCounts}

/-- Cancellation reaches the right calls of an evaluation that has the evaluator to itself, whatever the turns
of its tasks. -/
structure TokensReach (run : World.Run e (fun _ : Unit => b) counts) : Prop where
  idle : b.limits.Forestalled → ∀ k, (run.world k).calls = []
  returns : ∀ n, (b.result e counts).endsAt = some n →
    ∃ k, run.Returns () k (b.result e counts).verdict (b.startsAt + n)
  returned : ∀ k verdict endedAt, run.Returns () k verdict endedAt →
    e.Reaches counts b.selector verdict ((run.world (k + 1)).calls.map (·.2))
      fun name => CancelToken.Cancelled (run.world (k + 1)).cancelled (.check () name)
  /-- When it is dropped before it returns. -/
  dropped : ∀ k, (run.world k).Going () → ∀ name,
    CancelToken.Cancelled ((run.world k).drop ()).cancelled (.check () name) →
      .caller () ∈ (run.world k).cancelled ∨ b.TimedOutBy e counts (run.world k).clock name

theorem called_scene (w : World Unit) : (w.scene ()).called = w.calls.map (·.2) := by
  simp [World.scene]

theorem tokensReach (run : World.Run e (fun _ : Unit => b) counts) : run.TokensReach where
  idle h k := by
    refine List.eq_nil_iff_forall_not_mem.2 fun call hcall => ?_
    have hknown := (run.sound_solo k).known call.2 (called_scene _ ▸ List.mem_map_of_mem hcall)
    rw [Booking.calls_of_forestalled h] at hknown
    cases hknown
  returns n hn := by
    obtain ⟨k, hk⟩ := run.ends (i := ()) run.sound_solo hn
    obtain ⟨m, verdict, endedAt, hreturns⟩ :=
      run.exists_returns (i := ()) (k := k) fun hgoing => hgoing _ _ (hk k (Nat.le_refl k))
    obtain ⟨hverdict, n', hn', hat, -⟩ := (run.sound_solo (m + 1)).standing_of hreturns.returned
    rw [hn] at hn'
    cases hn'
    exact ⟨m, hverdict ▸ hat ▸ hreturns⟩
  returned k verdict endedAt h := by
    rw [← called_scene]
    exact h.move.reaches (run.sound_solo k) (run.sound_solo (k + 1)) h.going h.returned
  dropped k hgoing name htoken := (run.sound_solo k).tokens_of_going hgoing htoken

end World.Run

/-! ## Rounds of a broadcaster -/

/-- The evaluation of a round that starts at an instant. -/
def Schedule.booking (c : Schedule) (now : Int) (startedAt : Nat) : Booking where
  selector := c.selector
  limits := { deadline := some c.timeout }
  startsAt := startedAt
  wall := now + startedAt

/-- The evaluation of a round has returned before an instant. -/
def Round.ReturnedBefore (r : Round) (instant : Nat) : Prop :=
  ∃ n, r.evaluation.endsAt = some n ∧ r.startedAt + n < instant

/-- Cancellation has reached the right calls of a round when the broadcaster is stopped. -/
structure Round.TokensReach (b : Broadcaster) (now : Int) (counts : CallCounts) (instant : Nat)
    (r : Round) : Prop where
  evaluated : r.evaluation = (b.schedule.booking now r.startedAt).result b.evaluator counts
  returned : r.ReturnedBefore instant → b.evaluator.Reaches counts b.schedule.selector
    r.evaluation.verdict (r.evaluation.calls.map (·.check))
      fun name => ∃ call ∈ r.evaluation.calls, call.check = name ∧ r.cancelsAt instant call = true
  dropped : ¬ r.ReturnedBefore instant → ∀ call ∈ r.evaluation.calls,
    r.cancelsAt instant call = true →
      (b.schedule.booking now r.startedAt).TimedOutBy b.evaluator counts instant call.check

namespace Broadcaster

variable {b : Broadcaster} {now : Int} {counts : CallCounts} {earlier : List Delivery}
  {due startedAt instant shutdownAt fuel : Nat} {s : BroadcasterState} {r : Round}

theorem tokensReach_round :
    (b.round now counts earlier due startedAt).round.TokensReach b now counts instant := by
  have hover : ∀ r : Round, (r.evaluation.endsAt.any fun n => r.startedAt + n < instant) = true ↔
      r.ReturnedBefore instant := by
    simp [Round.ReturnedBefore, Option.any_eq_true]
  refine ⟨rfl, fun hreturned => ?_, fun hgoing call hcall hcancels => ?_⟩
  · simp only [Round.cancelsAt, if_pos ((hover _).2 hreturned)]
    exact (b.schedule.booking now startedAt).reaches_result b.evaluator counts
  · rw [Round.cancelsAt, if_neg fun h => hgoing ((hover _).1 h), Option.any_eq_true] at hcancels
    obtain ⟨t, ht, hdue⟩ := hcancels
    exact Booking.timedOutBy_of_call hcall ht (of_decide_eq_true hdue)

/-- Every round of a broadcaster begins with some counts of calls. -/
theorem tokensReach_of_mem (h : r ∈ b.roundsBefore now shutdownAt fuel s) :
    ∃ counts, r.TokensReach b now counts instant := by
  induction fuel generalizing s with
  | zero => cases h
  | succ fuel ih =>
    rw [roundsBefore] at h
    split at h
    · cases h
    · split at h
      · rcases List.mem_cons.1 h with rfl | h
        · exact ⟨_, tokensReach_round⟩
        · exact ih h
      · cases h

end Broadcaster

/-! ## Cancellation reaches the right probes -/

namespace Evaluator

/-- When an evaluation completes, the token of a call has been cancelled exactly when the timeout of its check
fired before the call ended, however that ended; when it is cancelled, so is the token of every call that was
started; and no call is started when the caller has cancelled before or the deadline is zero. This is so for
every order in which the tasks take their turns. An evaluation that is dropped on its way, as by a broadcaster
that is shut down, has cancelled the tokens of calls that had timed out by then, and no others. -/
theorem cancellation_reaches (e : Evaluator) (counts : CallCounts) (b : Booking) :
    (b.limits.Forestalled → (b.result e counts).calls = []) ∧
      e.Reaches counts b.selector (b.result e counts).verdict
        ((b.result e counts).calls.map (·.check)) (fun name => ∃ call ∈ (b.result e counts).calls,
          call.check = name ∧ (b.result e counts).cancels call = true) ∧
      Nonempty (World.Run e (fun _ : Unit => b) counts) ∧
      (∀ run : World.Run e (fun _ : Unit => b) counts, run.TokensReach) ∧
      ∀ (schedule : Schedule) (publishers : List Publisher) (now : Int) (shutdownAt : Nat)
        (rounds : List Round),
        (⟨e, schedule, publishers⟩ : Broadcaster).rounds? now shutdownAt = some rounds →
        ∀ round ∈ rounds, ∃ counts,
          round.TokensReach ⟨e, schedule, publishers⟩ now counts shutdownAt := by
  refine ⟨Booking.calls_of_forestalled, b.reaches_result e counts, World.Run.nonempty _ _ _,
    fun run => run.tokensReach, fun schedule publishers now shutdownAt rounds h round hround => ?_⟩
  rw [Broadcaster.rounds?] at h
  split at h
  · cases h
  · cases h
    exact Broadcaster.tokensReach_of_mem hround

/-- Two checks with a timeout of 2 ms: one hangs, the other says after 1 ms that it has run out of time. -/
def outOfTime : Evaluator where
  registry.registrations := [
    { name := "hangs", source := .shared ⟨fun _ _ => ⟨none, .panic .other⟩, false⟩ },
    { name := "gives up"
      source := .shared ⟨fun _ _ => ⟨some 1, .error (.timeout (.ofMillis 1))⟩, false⟩ }]
  registry.distinct := by decide
  registry.notBlank := by decide
  defaultTimeout := some (.ofMillis 2)

/-- Only the check that hangs is cancelled, unless the caller cancels at 1 ms. -/
theorem cancellation_reaches_outOfTime :
    (∀ run : World.Run outOfTime (fun _ : Unit => {}) .empty, ∃ k report,
      run.Returns () k (.completed report) 2 ∧
      CancelToken.Cancelled (run.world (k + 1)).cancelled (.check () "hangs") ∧
      ¬ CancelToken.Cancelled (run.world (k + 1)).cancelled (.check () "gives up")) ∧
    (∀ run : World.Run outOfTime (fun _ : Unit => { limits := { cancelAt := some 1 } }) .empty, ∃ k,
      run.Returns () k .cancelled 1 ∧ ∀ name ∈ (run.world (k + 1)).calls.map (·.2),
        CancelToken.Cancelled (run.world (k + 1)).cancelled (.check () name)) ∧
    ∀ run : World.Run outOfTime (fun _ : Unit => { limits := { deadline := some .zero } }) .empty,
      ∀ k, (run.world k).calls = [] := by
  obtain ⟨-, -, -, hcomplete, -⟩ := cancellation_reaches outOfTime .empty {}
  obtain ⟨-, -, -, hcancel, -⟩ := cancellation_reaches outOfTime .empty
    { limits := { cancelAt := some 1 } }
  obtain ⟨-, -, -, hidle, -⟩ := cancellation_reaches outOfTime .empty
    { limits := { deadline := some .zero } }
  refine ⟨fun run => ?_, fun run => ?_, fun run => (hidle run).idle (.inr ⟨_, rfl, rfl⟩)⟩
  · obtain ⟨k, hreturns⟩ := (hcomplete run).returns 2 rfl
    have hreach := ((hcomplete run).returned _ _ _ hreturns).completed ⟨_, rfl⟩
    refine ⟨k, _, hreturns, (hreach _ List.mem_cons_self).2 ⟨.ofMillis 2, rfl, _, rfl, nofun⟩,
      fun htoken => ?_⟩
    obtain ⟨d, ⟨htimeout, probe, hprobe, hlate⟩⟩ :=
      (hreach _ (List.mem_cons_of_mem _ List.mem_cons_self)).1 htoken
    cases hprobe
    cases htimeout
    exact absurd (hlate 1 rfl) (by decide)
  · obtain ⟨k, hreturns⟩ := (hcancel run).returns 1 rfl
    exact ⟨k, hreturns, ((hcancel run).returned _ _ _ hreturns).cancelled rfl⟩

end Evaluator

end HealthWatch
