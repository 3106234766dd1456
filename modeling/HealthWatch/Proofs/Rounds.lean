import HealthWatch.Broadcaster
import HealthWatch.Termination
/-!
# When rounds take place

`round_prompt` sums up one round of a broadcaster whose publishers take no time: it ends with its
evaluation, within the timeout, and every publisher has got the report then. `roundAt` numbers the rounds
of a broadcaster that nobody shuts down, and `Loop` says what the two waits of its loop may do when
somebody does. Both are tied to `rounds?` by induction over the rounds, of which at most one starts
between two ticks.
-/

namespace HealthWatch

/-! ## The end of an evaluation -/

/-- A deadline ends every evaluation. -/
theorem Evaluator.endsAt_le_deadline (e : Evaluator) (counts : CallCounts) (now : Int) (s : Selector)
    (d : Duration) : ∃ n ≤ d.ceilMillis,
      (e.evaluate counts now s { deadline := some d }).1.endsAt = some n := by
  unfold evaluate
  split
  · exact ⟨0, Nat.zero_le _, rfl⟩
  · show ∃ n ≤ d.ceilMillis, (conclude now _ (e.courses counts s (some d))).2 = some n
    have hlimit : limit { deadline := some d } = some d.ceilMillis := rfl
    unfold conclude
    rw [hlimit]
    cases lastEnd (e.courses counts s (some d)) with
    | none => exact ⟨_, Nat.le_refl _, rfl⟩
    | some f =>
      dsimp only
      split
      · next hall => exact ⟨f, Nat.le_of_lt (by simpa using hall), rfl⟩
      · exact ⟨_, Nat.le_refl _, rfl⟩

theorem Duration.WholeMillis.ceilMillis_eq {d : Duration} (h : d.WholeMillis) :
    d.ceilMillis = d.millis := if_pos h

/-- When and what a round delivers: at its end the report of its evaluation, if that completed. -/
def Round.delivery? (r : Round) : Option (Nat × Report) := do
  return (← r.endedAt, ← r.evaluation.report?)

theorem Round.delivery?_eq {r : Round} {e : Nat} (h : r.endedAt = some e) :
    r.delivery? = r.evaluation.report?.map (e, ·) := by
  unfold delivery?
  rw [h]
  cases r.evaluation.report? <;> rfl

namespace Broadcaster

variable {b : Broadcaster} {now : Int} {s : BroadcasterState}

/-! ## One round -/

/-- The publishers take no time, whether they succeed or not. -/
def Prompt (b : Broadcaster) : Prop :=
  ∀ p ∈ b.publishers, ∀ earlier d, (p.publish earlier d).wait = some 0

theorem doneAt_of_mem_deliver (hb : b.Prompt) {earlier : List Delivery} {doneAt : Nat} {d : Delivery}
    {ev : PublisherEvent} (hev : ev ∈ b.deliver earlier doneAt d) : ev.doneAt = some doneAt := by
  obtain ⟨p, hp, rfl⟩ := List.mem_map.1 hev
  show ((p.publish earlier d).wait).map (doneAt + ·) = some doneAt
  rw [hb p hp]
  rfl

theorem lastDone_eq {doneAt : Nat} {events : List PublisherEvent}
    (h : ∀ ev ∈ events, ev.doneAt = some doneAt) : lastDone doneAt events = some doneAt := by
  induction events with
  | nil => rfl
  | cons ev evs ih =>
    show later ev.doneAt (lastDone doneAt evs) = some doneAt
    rw [h ev List.mem_cons_self, ih fun ev hev => h ev (List.mem_cons_of_mem _ hev)]
    exact congrArg some (Nat.max_self doneAt)

/-- A round ends with its evaluation, and every publisher has got the report then, if there is one. -/
structure Ends (b : Broadcaster) (r : Round) (e : Nat) : Prop where
  endedAt : r.endedAt = some e
  evaluated : r.evaluation.endsAt.map (r.startedAt + ·) = some e
  notBefore : r.startedAt ≤ e
  inTime : e ≤ r.startedAt + b.schedule.timeout.ceilMillis
  doneAt : ∀ ev ∈ r.events, ev.doneAt = some e
  events : r.events.map (fun ev => (ev.publisher, ev.report)) =
    r.evaluation.report?.toList.flatMap fun report => b.publishers.map fun p => (p.name, report)

theorem round_prompt (hb : b.Prompt) (counts : CallCounts) (earlier : List Delivery)
    (due startedAt : Nat) : ∃ e, b.Ends (b.round now counts earlier due startedAt).round e := by
  obtain ⟨n, hn, hend⟩ := b.evaluator.endsAt_le_deadline counts (now + startedAt)
    b.schedule.selector b.schedule.timeout
  have hnotBefore : startedAt ≤ startedAt + n := Nat.le_add_right _ _
  have hinTime : startedAt + n ≤ startedAt + b.schedule.timeout.ceilMillis := Nat.add_le_add_left hn _
  refine ⟨startedAt + n, ?_⟩
  unfold round
  simp only [hend, Option.map_some]
  cases hr : (b.evaluator.evaluate counts (now + startedAt) b.schedule.selector
      { deadline := some b.schedule.timeout }).1.report? with
  | none => exact ⟨rfl, by rw [hend]; rfl, hnotBefore, hinTime, by simp, by rw [hr]; rfl⟩
  | some report =>
    have hdone := fun ev (hev : ev ∈ b.deliver earlier (startedAt + n)
      ⟨now + (startedAt + n : Nat), report⟩) => doneAt_of_mem_deliver hb hev
    refine ⟨lastDone_eq hdone, by rw [hend]; rfl, hnotBefore, hinTime, hdone, ?_⟩
    rw [hr]
    simp [deliver]

/-! ## Rounds without a shutdown -/

/-- Where a broadcaster that is not shut down stands before a round. -/
def stateAt (b : Broadcaster) (now : Int) : Nat → BroadcasterState
  | 0 => b.start
  | k + 1 =>
    let s := b.stateAt now k
    (b.step now s ((nextStart s).getD 0)).2

/-- A round of a broadcaster that is not shut down, by its number from zero on. -/
def roundAt (b : Broadcaster) (now : Int) (k : Nat) : Round :=
  let s := b.stateAt now k
  (b.step now s ((nextStart s).getD 0)).1

theorem startedAt_roundAt (k : Nat) :
    (b.roundAt now k).startedAt = (nextStart (b.stateAt now k)).getD 0 := rfl

theorem due_roundAt_succ (k : Nat) : (b.roundAt now (k + 1)).due =
    b.nextDue (b.roundAt now k).due (b.roundAt now k).startedAt := rfl

theorem freeAt_stateAt_succ (k : Nat) :
    (b.stateAt now (k + 1)).freeAt = (b.roundAt now k).endedAt := rfl

/-- When a round ends. -/
def endOf (b : Broadcaster) (now : Int) (k : Nat) : Nat := (b.roundAt now k).endedAt.getD 0

theorem ends_roundAt (hb : b.Prompt) (now : Int) (k : Nat) :
    b.Ends (b.roundAt now k) (b.endOf now k) := by
  obtain ⟨e, he⟩ := @round_prompt b now hb (b.stateAt now k).counts (b.stateAt now k).delivered
    (b.stateAt now k).due ((nextStart (b.stateAt now k)).getD 0)
  have hend : b.Ends (b.roundAt now k) e := he
  rwa [endOf, hend.endedAt]

/-- Each round ends, so the next one has an instant to start at. -/
theorem nextStart_stateAt (hb : b.Prompt) (now : Int) (k : Nat) :
    nextStart (b.stateAt now k) = some (b.roundAt now k).startedAt := by
  rw [startedAt_roundAt]
  cases k with
  | zero => rfl
  | succ k =>
    rw [nextStart, freeAt_stateAt_succ, (ends_roundAt hb now k).endedAt]
    rfl

theorem startedAt_roundAt_succ (hb : b.Prompt) (k : Nat) : (b.roundAt now (k + 1)).startedAt =
    max (b.endOf now k) (b.roundAt now (k + 1)).due := by
  rw [startedAt_roundAt, nextStart, freeAt_stateAt_succ, (ends_roundAt hb now k).endedAt]
  rfl

theorem due_le_startedAt (hb : b.Prompt) (k : Nat) :
    (b.roundAt now k).due ≤ (b.roundAt now k).startedAt := by
  cases k with
  | zero => exact Nat.le_max_right _ _
  | succ k =>
    rw [startedAt_roundAt_succ hb]
    exact Nat.le_max_right _ _

theorem startedAt_le_succ (hb : b.Prompt) (k : Nat) :
    (b.roundAt now k).startedAt ≤ (b.roundAt now (k + 1)).startedAt := by
  rw [startedAt_roundAt_succ hb]
  exact Nat.le_trans (ends_roundAt hb now k).notBefore (Nat.le_max_left _ _)

theorem startedAt_mono (hb : b.Prompt) {j k : Nat} (h : j ≤ k) :
    (b.roundAt now j).startedAt ≤ (b.roundAt now k).startedAt := by
  induction h with
  | refl => exact Nat.le_refl _
  | step _ ih => exact Nat.le_trans ih (startedAt_le_succ hb _)

/-- Every tick is later than the one before. -/
theorem le_due (hperiod : 0 < b.schedule.period.nanos) (hb : b.Prompt) (k : Nat) :
    k ≤ (b.roundAt now k).due := by
  have hpos : 0 < b.schedule.period.ceilMillis := Duration.lt_ceilMillis_iff.2 (by simpa using hperiod)
  induction k with
  | zero => exact Nat.zero_le _
  | succ k ih =>
    have hle := @due_le_startedAt b now hb k
    rw [due_roundAt_succ, nextDue]
    split <;> omega

theorem le_startedAt (hperiod : 0 < b.schedule.period.nanos) (hb : b.Prompt) (k : Nat) :
    k ≤ (b.roundAt now k).startedAt :=
  Nat.le_trans (le_due hperiod hb k) (due_le_startedAt hb k)

/-! ## The schedule -/

/-- Rounds that follow a schedule of whole milliseconds: a tick comes a period after the one before,
or, if the round before was late, after its start; a round starts at its tick, or with the end of the
round before; and the timeout bounds its length. So rounds do not overlap and do not come in bursts. -/
structure OnSchedule (c : Schedule) (round : Nat → Round) (endOf : Nat → Nat) : Prop where
  first_due : (round 0).due = c.delay.millis
  first_start : (round 0).startedAt = c.delay.millis
  next_due (k : Nat) : (round (k + 1)).due =
    if (round k).startedAt ≤ (round k).due + 5 then (round k).due + c.period.millis
    else (round k).startedAt + c.period.millis
  next_start (k : Nat) : (round (k + 1)).startedAt = max (endOf k) (round (k + 1)).due
  ended (k : Nat) : (round k).endedAt = some (endOf k)
  notBefore (k : Nat) : (round k).startedAt ≤ endOf k
  inTime (k : Nat) : endOf k ≤ (round k).startedAt + c.timeout.millis
  apart (k : Nat) : endOf k ≤ (round (k + 1)).startedAt
  noBurst (k : Nat) : (round k).startedAt + c.period.millis ≤ (round (k + 1)).startedAt + 5

theorem onSchedule (hb : b.Prompt) (hdelay : b.schedule.delay.WholeMillis)
    (hperiod : b.schedule.period.WholeMillis) (htimeout : b.schedule.timeout.WholeMillis) :
    OnSchedule b.schedule (b.roundAt now) (b.endOf now) where
  first_due := hdelay.ceilMillis_eq
  first_start := by
    rw [← hdelay.ceilMillis_eq]
    exact Nat.max_eq_right (Nat.zero_le _)
  next_due k := by
    rw [due_roundAt_succ, nextDue, hperiod.ceilMillis_eq]
    rfl
  next_start := startedAt_roundAt_succ hb
  ended k := (ends_roundAt hb now k).endedAt
  notBefore k := (ends_roundAt hb now k).notBefore
  inTime k := htimeout.ceilMillis_eq ▸ (ends_roundAt hb now k).inTime
  apart k := by
    rw [startedAt_roundAt_succ hb]
    exact Nat.le_max_left _ _
  noBurst k := by
    have hdue := @due_le_startedAt b now hb (k + 1)
    rw [due_roundAt_succ, nextDue, hperiod.ceilMillis_eq, lateness] at hdue
    split at hdue <;> omega

/-! ## Shutting down -/

/-- The loop from one of its states to its end, with the rounds that it starts and those that it
finishes. While it waits for a tick, and while a round is on its way, it waits for the shutdown, too.
What comes first is taken, and one or the other when both come at the same instant. -/
inductive Loop (b : Broadcaster) (now : Int) (isOver : Nat → Bool) :
    BroadcasterState → List Round → List Round → Prop
  | stopped {s : BroadcasterState} {u : Nat} (hover : isOver u = true)
    (htick : ∀ t ∈ nextStart s, u ≤ t) : Loop b now isOver s [] []
  | interrupted {s : BroadcasterState} {t u : Nat} (htick : nextStart s = some t)
    (hbefore : ∀ v < t, isOver v = false) (hover : isOver u = true)
    (hend : ∀ e ∈ (b.step now s t).1.endedAt, u ≤ e) : Loop b now isOver s [(b.step now s t).1] []
  | finished {s : BroadcasterState} {t e : Nat} {started done : List Round}
    (htick : nextStart s = some t) (hend : (b.step now s t).1.endedAt = some e)
    (hbefore : ∀ v < e, isOver v = false) (hrest : Loop b now isOver (b.step now s t).2 started done) :
    Loop b now isOver s ((b.step now s t).1 :: started) ((b.step now s t).1 :: done)

/-- The rounds of a list that have ended before an instant. -/
def endedBefore (instant : Nat) (rounds : List Round) : List Round :=
  rounds.filter fun r => r.endedAt.any (· < instant)

theorem endedBefore_cons {r : Round} {e : Nat} (h : r.endedAt = some e) (instant : Nat)
    (rounds : List Round) : endedBefore instant (r :: rounds) =
      if e < instant then r :: endedBefore instant rounds else endedBefore instant rounds := by
  unfold endedBefore
  rw [List.filter_cons, h]
  simp only [Option.any_some, decide_eq_true_eq]

section Shutdown
variable {shutdownAt : Nat} {isOver : Nat → Bool}

theorem step_stateAt (hb : b.Prompt) {k t : Nat} (ht : nextStart (b.stateAt now k) = some t) :
    b.step now (b.stateAt now k) t = (b.roundAt now k, b.stateAt now (k + 1)) := by
  rw [nextStart_stateAt hb] at ht
  cases ht
  rfl

/-- From some round on, the rounds before the shutdown are those that start before it, as long as there
is fuel for a round in every millisecond. -/
theorem roundsBefore_stateAt (hb : b.Prompt) (hperiod : 0 < b.schedule.period.nanos) {fuel k : Nat}
    (hfuel : shutdownAt ≤ k + fuel) : ∃ count,
      b.roundsBefore now shutdownAt fuel (b.stateAt now k) =
          (List.range' k count).map (b.roundAt now) ∧
        ∀ j, k ≤ j → (j < k + count ↔ (b.roundAt now j).startedAt < shutdownAt) := by
  induction fuel generalizing k with
  | zero =>
    refine ⟨0, rfl, fun j hj => ?_⟩
    have hle := @le_startedAt b now hperiod hb j
    omega
  | succ fuel ih =>
    rw [roundsBefore, nextStart_stateAt hb]
    dsimp only
    split
    · next hlt =>
      rw [step_stateAt hb (nextStart_stateAt hb now k)]
      obtain ⟨count, hrest, hcount⟩ := @ih (k + 1) (by omega)
      refine ⟨count + 1, by rw [hrest, List.range'_succ, List.map_cons], fun j hj => ?_⟩
      rcases Nat.eq_or_lt_of_le hj with rfl | hj
      · omega
      · have := hcount j hj
        omega
    · next hlt =>
      refine ⟨0, rfl, fun j hj => ?_⟩
      have hle := @startedAt_mono b now hb k j hj
      omega

/-- No round starts or ends at the very instant of the shutdown. -/
def Untied (b : Broadcaster) (now : Int) (shutdownAt : Nat) : Prop :=
  ∀ k, (b.roundAt now k).startedAt ≠ shutdownAt ∧ b.endOf now k ≠ shutdownAt

section Loop
variable (hb : b.Prompt) (hperiod : 0 < b.schedule.period.nanos)
  (hover : ∀ t, isOver t = true ↔ shutdownAt ≤ t)

include hover in
/-- The shutdown does not come before an instant at which it is not heard. -/
theorem le_shutdown {t : Nat} (h : ∀ v < t, isOver v = false) : t ≤ shutdownAt := by
  refine Nat.le_of_not_lt fun hlt => ?_
  have hfalse := h shutdownAt hlt
  rw [(hover shutdownAt).2 (Nat.le_refl _)] at hfalse
  cases hfalse

include hb in
theorem roundsBefore_of_le {k fuel : Nat} (hle : shutdownAt ≤ (b.roundAt now k).startedAt) :
    b.roundsBefore now shutdownAt fuel (b.stateAt now k) = [] := by
  cases fuel with
  | zero => rfl
  | succ fuel =>
    rw [roundsBefore, nextStart_stateAt hb]
    exact if_neg (Nat.not_lt.2 hle)

include hb in
theorem roundsBefore_of_le_end {k fuel : Nat} (hle : shutdownAt ≤ b.endOf now k) :
    b.roundsBefore now shutdownAt fuel (b.stateAt now (k + 1)) = [] := by
  refine roundsBefore_of_le hb ?_
  rw [startedAt_roundAt_succ hb]
  exact Nat.le_trans hle (Nat.le_max_left _ _)

include hb hperiod in
theorem roundsBefore_of_lt {k fuel : Nat} (hfuel : shutdownAt ≤ k + fuel)
    (hlt : (b.roundAt now k).startedAt < shutdownAt) : ∃ rest, fuel = rest + 1 ∧
      b.roundsBefore now shutdownAt fuel (b.stateAt now k) =
        b.roundAt now k :: b.roundsBefore now shutdownAt rest (b.stateAt now (k + 1)) := by
  have hle := @le_startedAt b now hperiod hb k
  cases fuel with
  | zero => omega
  | succ fuel =>
    refine ⟨fuel, rfl, ?_⟩
    rw [roundsBefore, nextStart_stateAt hb]
    dsimp only
    rw [if_pos hlt, step_stateAt hb (nextStart_stateAt hb now k)]

include hb hperiod hover in
/-- Without a tie the loop starts the rounds that start before the shutdown, and finishes those that
have ended by then. -/
theorem Loop.eq_roundsBefore (htie : b.Untied now shutdownAt) {s : BroadcasterState}
    {started done : List Round} (h : Loop b now isOver s started done) {k fuel : Nat}
    (hs : s = b.stateAt now k) (hfuel : shutdownAt ≤ k + fuel) :
    started = b.roundsBefore now shutdownAt fuel (b.stateAt now k) ∧
      done = endedBefore shutdownAt started := by
  induction h generalizing k fuel with
  | stopped hu htick =>
    subst hs
    have hle := htick _ (nextStart_stateAt hb now k)
    exact ⟨(roundsBefore_of_le hb (Nat.le_trans ((hover _).1 hu) hle)).symm, rfl⟩
  | interrupted htick hbefore hu hend =>
    subst hs
    rw [step_stateAt hb htick] at hend ⊢
    rw [nextStart_stateAt hb] at htick
    cases htick
    have hlt : (b.roundAt now k).startedAt < shutdownAt :=
      Nat.lt_of_le_of_ne (le_shutdown hover hbefore) (htie k).1
    have hle : shutdownAt ≤ b.endOf now k :=
      Nat.le_trans ((hover _).1 hu) (hend _ (ends_roundAt hb now k).endedAt)
    obtain ⟨rest, -, hrounds⟩ := roundsBefore_of_lt hb hperiod hfuel hlt
    refine ⟨?_, ?_⟩
    · rw [hrounds, roundsBefore_of_le_end hb hle]
    · rw [endedBefore_cons (ends_roundAt hb now k).endedAt, if_neg (Nat.not_lt.2 hle)]
      rfl
  | finished htick hend hbefore hrest ih =>
    subst hs
    rw [step_stateAt hb htick] at hend hrest ih ⊢
    rw [(ends_roundAt hb now k).endedAt] at hend
    cases hend
    have hlt : b.endOf now k < shutdownAt :=
      Nat.lt_of_le_of_ne (le_shutdown hover hbefore) (htie k).2
    have hstart := Nat.lt_of_le_of_lt (ends_roundAt hb now k).notBefore hlt
    obtain ⟨rest, rfl, hrounds⟩ := roundsBefore_of_lt hb hperiod hfuel hstart
    have hfuel : shutdownAt ≤ k + 1 + rest := by omega
    obtain ⟨hstarted, hdone⟩ := ih rfl hfuel
    refine ⟨?_, ?_⟩
    · rw [hrounds, hstarted]
    · rw [endedBefore_cons (ends_roundAt hb now k).endedAt, if_pos hlt, hdone]

include hb hperiod hover in
/-- The loop comes to its end. -/
theorem loop_roundsBefore {k fuel : Nat} (hfuel : shutdownAt ≤ k + fuel) :
    Loop b now isOver (b.stateAt now k) (b.roundsBefore now shutdownAt fuel (b.stateAt now k))
      (endedBefore shutdownAt (b.roundsBefore now shutdownAt fuel (b.stateAt now k))) := by
  have hnot : ∀ t ≤ shutdownAt, ∀ v < t, isOver v = false := by
    intro t ht v hv
    refine Bool.eq_false_iff.2 fun h => ?_
    have := (hover v).1 h
    omega
  induction fuel using Nat.strongRecOn generalizing k with
  | _ fuel ih =>
    have htick := nextStart_stateAt hb now k
    have hstep := step_stateAt hb htick
    rcases Nat.lt_or_ge (b.roundAt now k).startedAt shutdownAt with hlt | hge
    · obtain ⟨rest, rfl, hrounds⟩ := roundsBefore_of_lt hb hperiod hfuel hlt
      rw [hrounds, endedBefore_cons (ends_roundAt hb now k).endedAt]
      split
      · next hend =>
        have hloop := @Loop.finished b now isOver _ _ (b.endOf now k) _ _ htick
          (by rw [hstep]; exact (ends_roundAt hb now k).endedAt) (hnot _ (Nat.le_of_lt hend))
          (by rw [hstep]; exact ih rest (Nat.lt_succ_self rest) (by omega))
        rwa [hstep] at hloop
      · next hend =>
        rw [roundsBefore_of_le_end hb (Nat.le_of_not_lt hend)]
        have hloop := @Loop.interrupted b now isOver _ _ shutdownAt htick (hnot _ (Nat.le_of_lt hlt))
          ((hover _).2 (Nat.le_refl _)) (by
            intro e he
            rw [hstep, (ends_roundAt hb now k).endedAt] at he
            cases he
            exact Nat.le_of_not_lt hend)
        rwa [hstep] at hloop
    · rw [roundsBefore_of_le hb hge]
      refine .stopped ((hover shutdownAt).2 (Nat.le_refl _)) fun t ht => ?_
      rw [htick] at ht
      cases ht
      exact hge

end Loop

/-! ## What the publishers get -/

theorem filterMap_doneAt {events : List PublisherEvent} {e : Nat}
    (h : ∀ ev ∈ events, ev.doneAt = some e) :
    (events.filterMap fun ev => ev.doneAt.map (·, ev)) = events.map (e, ·) := by
  induction events with
  | nil => rfl
  | cons ev evs ih =>
    rw [List.filterMap_cons, h ev List.mem_cons_self]
    exact congrArg _ (ih fun ev hev => h ev (List.mem_cons_of_mem _ hev))

theorem eventsBefore_cons {r : Round} {e : Nat} (h : b.Ends r e) (rounds : List Round) :
    Round.eventsBefore shutdownAt (r :: rounds) =
      (if e < shutdownAt then r.events.map (e, ·) else []) ++
        Round.eventsBefore shutdownAt rounds := by
  unfold Round.eventsBefore
  rw [List.flatMap_cons, filterMap_doneAt h.doneAt]
  refine congrArg (· ++ _) ?_
  dsimp only
  split
  · next hlt =>
    -- All events of a round take place at one instant.
    rw [List.filter_eq_self.2 (by simp [hlt])]
    refine List.mergeSort_of_pairwise (List.pairwise_map.2 ?_)
    exact List.pairwise_iff_forall_sublist.2 fun _ => by simp
  · next hlt =>
    have hnone : (r.events.map (e, ·)).filter (fun p => p.1 < shutdownAt) = [] := by
      refine List.filter_eq_nil_iff.2 fun p hp => ?_
      obtain ⟨ev, -, rfl⟩ := List.mem_map.1 hp
      simpa using hlt
    rw [hnone, List.mergeSort_nil]

/-- Before an instant the publishers get the reports of the rounds that have ended by then. -/
theorem eventsBefore_eq {rounds : List Round} (hends : ∀ r ∈ rounds, ∃ e, b.Ends r e)
    (shutdownAt : Nat) :
    (Round.eventsBefore shutdownAt rounds).map (fun p => (p.1, p.2.publisher, p.2.report)) =
      ((endedBefore shutdownAt rounds).filterMap Round.delivery?).flatMap fun d =>
        b.publishers.map fun p => (d.1, p.name, d.2) := by
  induction rounds with
  | nil => rfl
  | cons r rs ih =>
    obtain ⟨e, he⟩ := hends r List.mem_cons_self
    rw [eventsBefore_cons he, endedBefore_cons he.endedAt, List.map_append,
      ih fun r hr => hends r (List.mem_cons_of_mem _ hr)]
    split
    · have hevents := congrArg (List.map fun p => (e, p)) he.events
      rw [List.map_map] at hevents
      rw [List.map_map, List.filterMap_cons, Round.delivery?_eq he.endedAt]
      refine (congrArg (· ++ _) hevents).trans ?_
      cases r.evaluation.report? with
      | none => rfl
      | some report => simp
    · rfl

end Shutdown

end Broadcaster

/-- The channel of a shutdown that is signalled at an instant, or of which the controller is dropped
then without a signal. -/
def Termination.closing (instant : Nat) (dropped : Bool) (t : Nat) : Termination :=
  if t < instant then {} else if dropped then abandon {} else signal {}

theorem Termination.isOver_closing {instant t : Nat} {dropped : Bool} :
    (Termination.closing instant dropped t).isOver = true ↔ instant ≤ t := by
  unfold closing
  split
  · next h => simpa [isOver] using h
  · next h => cases dropped <;> simpa [isOver, abandon, signal] using h

namespace Broadcaster

/-- The rounds of a broadcaster with prompt publishers follow its schedule. Until a shutdown it starts
those that are due to start before, and every publisher gets, in order, the reports of the evaluations
that have completed by then. Unless the shutdown comes at the very instant at which a round starts or
ends, the loop cannot do anything else, and neither starts nor finishes a round afterwards. -/
theorem rounds_on_schedule (b : Broadcaster) (now : Int) (hb : b.Prompt)
    (hdelay : b.schedule.delay.WholeMillis) (hperiod : b.schedule.period.WholeMillis)
    (htimeout : b.schedule.timeout.WholeMillis) (hpos : 0 < b.schedule.period.nanos) :
    OnSchedule b.schedule (b.roundAt now) (b.endOf now) ∧
      (∀ k, ∃ counts, (b.roundAt now k).evaluation = (b.evaluator.evaluate counts
        (now + (b.roundAt now k).startedAt) b.schedule.selector
        { deadline := some b.schedule.timeout }).1) ∧
      ∀ shutdownAt, ∃ started, b.rounds? now shutdownAt = some started ∧
        (∃ count, started = (List.range count).map (b.roundAt now) ∧
          ∀ k, k < count ↔ (b.roundAt now k).startedAt < shutdownAt) ∧
        (Round.eventsBefore shutdownAt started).map (fun p => (p.1, p.2.publisher, p.2.report)) =
          (((endedBefore shutdownAt started).filterMap Round.delivery?).flatMap fun d =>
            b.publishers.map fun p => (d.1, p.name, d.2)) ∧
        (b.Untied now shutdownAt → ∀ dropped started' done,
          Loop b now (fun t => (Termination.closing shutdownAt dropped t).isOver) b.start started' done ↔
            started' = started ∧ done = endedBefore shutdownAt started) := by
  refine ⟨onSchedule hb hdelay hperiod htimeout, fun k => ⟨_, rfl⟩, fun shutdownAt => ?_⟩
  obtain ⟨count, hrounds, hcount⟩ :=
    @roundsBefore_stateAt b now shutdownAt hb hpos (shutdownAt + 1) 0 (by omega)
  have hstarted : b.rounds? now shutdownAt = some ((List.range count).map (b.roundAt now)) := by
    rw [List.range_eq_range', ← hrounds]
    exact if_neg (Nat.ne_of_gt hpos)
  refine ⟨_, hstarted, ⟨count, rfl, fun k => ?_⟩, ?_, ?_⟩
  · simpa using hcount k (Nat.zero_le k)
  · refine eventsBefore_eq (fun r hr => ?_) shutdownAt
    obtain ⟨k, -, rfl⟩ := List.mem_map.1 hr
    exact ⟨_, ends_roundAt hb now k⟩
  · intro htie dropped started done
    rw [List.range_eq_range', ← hrounds]
    have hfuel : shutdownAt ≤ 0 + (shutdownAt + 1) := by omega
    constructor
    · intro hloop
      obtain ⟨rfl, hdone⟩ :=
        hloop.eq_roundsBefore hb hpos (fun _ => Termination.isOver_closing) htie rfl hfuel
      exact ⟨rfl, hdone⟩
    · rintro ⟨rfl, rfl⟩
      exact loop_roundsBefore hb hpos (fun _ => Termination.isOver_closing) hfuel

/-- A check that takes 40 ms, a tick every 30 ms, and a publisher that fails. -/
def sluggish : Broadcaster where
  evaluator.registry := {
    registrations := [{
      name := "db"
      source := .shared { call := fun _ _ => ⟨some 40, .outcome { status := .healthy }⟩ } }]
    distinct := by decide
    notBlank := by decide }
  schedule := { delay := .ofMillis 10, period := .ofMillis 30, timeout := .ofMillis 50 }
  publishers := [{ name := "gateway", publish := fun _ _ => { result := .error (.http "down") } }]

/-- Rounds that take longer than the period follow one another without a pause: the second starts with
the end of the first, ten milliseconds after its tick. -/
theorem rounds_on_schedule_sluggish : sluggish.Prompt ∧
    OnSchedule sluggish.schedule (sluggish.roundAt 0) (sluggish.endOf 0) ∧
      (sluggish.roundAt 0 0).startedAt = 10 ∧ (sluggish.roundAt 0 1).due = 40 ∧
      (sluggish.roundAt 0 1).startedAt = 50 := by
  have hb : sluggish.Prompt := by
    intro p hp
    obtain rfl := List.mem_singleton.1 hp
    exact fun _ _ => rfl
  obtain ⟨hschedule, -, -⟩ := rounds_on_schedule sluggish 0 hb (by decide) (by decide) (by decide)
    (by decide)
  have hend : sluggish.endOf 0 0 = 50 := by decide
  have hfirst := hschedule.first_start
  have hdue := hschedule.next_due 0
  have hstart := hschedule.next_start 0
  rw [hfirst, hschedule.first_due] at hdue
  rw [hdue, hend] at hstart
  exact ⟨hb, hschedule, hfirst, hdue, hstart⟩

end Broadcaster

end HealthWatch
