import HealthWatch.Notification
/-!
# Which notifications a run brings about

`update_outage`, `update_recovery`, `update_calm` and `update_reminder` sum up `Liveness.update`: what
is due depends on whether the service is healthy and on whether it was. They rest on `Remembers`, the
invariant that ties what is remembered of a service to its history: the last notification is one of
an outage exactly when the service was last seen in one. `run_notices` says what follows for whole
runs, over any services and with a clock that may go backwards.
-/

namespace HealthWatch

/-- A status of a service at an instant, in nanoseconds since 1970. -/
structure Observation where
  service : String
  status : Status
  instant : Int
  deriving DecidableEq

/-- The name by which services are told apart. -/
def Observation.key (c : Observation) : String := Text.lowercase c.service

/-- Observations, oldest first, each with the notification that it brought about. -/
abbrev History := List (Observation × Option Notice)

namespace History

/-- The part of a history that is about one service. -/
def about (h : History) (key : String) : History := h.filter fun p => p.1.key = key

/-- Whether the service was last seen in an outage. -/
def isDown (h : History) : Bool := h.getLast?.any fun p => !p.1.status.isHealthy

/-- When the last notification of an outage was due. -/
def lastDown (h : History) : Option Int :=
  ((h.filter fun p => p.2 = some .down).getLast?).map (·.1.instant)

/-- The notifications that were due. -/
def notices (h : History) : List Notice := h.filterMap (·.2)

/-- The last notification that was due. -/
def lastNotice (h : History) : Option Notice := h.notices.getLast?

variable {h : History} {c : Observation} {a : Option Notice}

theorem isDown_snoc : isDown (h ++ [(c, a)]) = !c.status.isHealthy := by
  simp [isDown]

theorem lastDown_snoc :
    lastDown (h ++ [(c, a)]) = if a = some .down then some c.instant else h.lastDown := by
  unfold lastDown
  rw [List.filter_append]
  by_cases ha : a = some .down
  · simp [ha]
  · simp [ha]

theorem lastNotice_snoc : lastNotice (h ++ [(c, a)]) = (a <|> h.lastNotice) := by
  unfold lastNotice notices
  rw [List.filterMap_append]
  cases a with
  | none => simp
  | some k => simp

theorem about_snoc {key : String} : about (h ++ [(c, a)]) key =
    if c.key = key then h.about key ++ [(c, a)] else h.about key := by
  unfold about
  rw [List.filter_append]
  by_cases hk : c.key = key
  · simp [hk]
  · simp [hk]

end History

/-! ## One observation -/

/-- What is due after the history of the same service. Outages and recoveries are always notified, and
what was notified before a recovery is the outage. A reminder is due when the last notification of
the outage is old enough, on a clock that does not count backwards. -/
inductive Answers (minInterval : Duration) (past : History) (c : Observation) :
    Option Notice → Prop where
  | outage (hc : c.status.isHealthy = false) (hpast : past.isDown = false) :
    Answers minInterval past c (some .down)
  | recovery (hc : c.status.isHealthy = true) (hpast : past.isDown = true)
    (hlast : past.lastNotice = some .down) : Answers minInterval past c (some .restored)
  | calm (hc : c.status.isHealthy = true) (hpast : past.isDown = false) :
    Answers minInterval past c none
  | reminder (hc : c.status.isHealthy = false) (hpast : past.isDown = true) (t : Int)
    (ht : past.lastDown = some t) : Answers minInterval past c
      (if (minInterval.nanos : Int) ≤ max 0 (c.instant - t) then some .down else none)

theorem Answers.lastNotice_of_restored {minInterval : Duration} {past : History} {c : Observation}
    {a : Option Notice} (h : Answers minInterval past c a) (ha : a = some .restored) :
    past.lastNotice = some .down := by
  cases h with
  | outage hc hpast => cases ha
  | recovery hc hpast hlast => exact hlast
  | calm hc hpast => cases ha
  | reminder hc hpast t ht => split at ha <;> cases ha

/-- What is remembered of a service fits its history. -/
structure Remembers (h : History) (l : Liveness) : Prop where
  isDown : l.isDown = h.isDown
  lastNotice : l.lastNotification.map (·.1) = h.lastNotice
  outage : h.isDown = true → ∃ t, h.lastDown = some t ∧ l.lastNotification = some (.down, t)
  calm : h.isDown = false → ∀ t, l.lastNotification ≠ some (.down, t)

theorem remembers_nothing : Remembers [] {} where
  isDown := rfl
  lastNotice := rfl
  outage h := by cases h
  calm _ t h := by cases h

namespace Liveness

variable {l l' : Liveness} {minInterval : Duration} {now t : Int} {s : Status}

theorem update_outage (hs : s.isHealthy = false) (h : ∀ t, l.lastNotification ≠ some (.down, t)) :
    l.update minInterval now s = (⟨some s, some (.down, now)⟩, some .down) := by
  have hnot : l.holdsBack minInterval now .down = false := by
    unfold holdsBack
    cases hl : l.lastNotification with
    | none => rfl
    | some p =>
      obtain ⟨kind, t⟩ := p
      cases kind with
      | down => exact absurd hl (h t)
      | restored => rfl
  simp only [update, kind?, hs, hnot, Bool.not_false, Bool.false_eq_true, if_true, if_false]

theorem update_recovery (hs : s.isHealthy = true) (hl : l.isDown = true)
    (h : l.lastNotification = some (.down, t)) :
    l.update minInterval now s = (⟨some s, some (.restored, now)⟩, some .restored) := by
  have hnot : l.holdsBack minInterval now .restored = false := by
    unfold holdsBack
    rw [h]
    rfl
  simp only [update, kind?, hs, hl, hnot, Bool.not_true, Bool.false_eq_true, if_true, if_false]

theorem update_calm (hs : s.isHealthy = true) (hl : l.isDown = false) :
    l.update minInterval now s = (⟨some s, l.lastNotification⟩, none) := by
  simp only [update, kind?, hs, hl, Bool.not_true, Bool.false_eq_true, if_false]

theorem update_reminder (hs : s.isHealthy = false) (h : l.lastNotification = some (.down, t)) :
    l.update minInterval now s =
      if (minInterval.nanos : Int) ≤ max 0 (now - t) then
        (⟨some s, some (.down, now)⟩, some .down)
      else (⟨some s, l.lastNotification⟩, none) := by
  have hholds : l.holdsBack minInterval now .down =
      decide (¬ (minInterval.nanos : Int) ≤ max 0 (now - t)) := by
    unfold holdsBack
    rw [h]
    simp only [Option.any_some, decide_true, Bool.true_and, decide_eq_decide]
    omega
  by_cases hdue : (minInterval.nanos : Int) ≤ max 0 (now - t)
  · rw [if_pos hdue]
    simp only [update, kind?, hs, hholds, hdue, Bool.not_false, not_true, decide_false, if_true,
      Bool.false_eq_true, if_false]
  · rw [if_neg hdue]
    simp only [update, kind?, hs, hholds, hdue, Bool.not_false, not_false_eq_true, decide_true,
      if_true]

end Liveness

namespace Remembers

variable {h : History} {l : Liveness} {c : Observation} {minInterval : Duration}

/-- A notification is remembered; it is one of an outage exactly when the status is. -/
theorem notified {k : Notice} (hk : k = .down ↔ c.status.isHealthy = false) :
    Remembers (h ++ [(c, some k)]) ⟨some c.status, some (k, c.instant)⟩ where
  isDown := History.isDown_snoc.symm
  lastNotice := by
    rw [History.lastNotice_snoc]
    rfl
  outage hd := by
    rw [History.isDown_snoc, Bool.not_eq_true'] at hd
    obtain rfl := hk.2 hd
    exact ⟨c.instant, by rw [History.lastDown_snoc, if_pos rfl], rfl⟩
  calm hd t heq := by
    rw [History.isDown_snoc, Bool.not_eq_false'] at hd
    cases heq
    rw [hk.1 rfl] at hd
    cases hd

/-- Without a notification the last one stands, as long as the service stays on its side. -/
theorem silent (hl : Remembers h l) (hsame : h.isDown = !c.status.isHealthy) :
    Remembers (h ++ [(c, none)]) ⟨some c.status, l.lastNotification⟩ where
  isDown := History.isDown_snoc.symm
  lastNotice := by
    rw [History.lastNotice_snoc]
    exact hl.lastNotice
  outage hd := by
    rw [History.isDown_snoc, ← hsame] at hd
    rw [History.lastDown_snoc, if_neg (by simp)]
    exact hl.outage hd
  calm hd := by
    rw [History.isDown_snoc, ← hsame] at hd
    exact hl.calm hd

/-- The last notification before a recovery is one of the outage. -/
theorem lastNotice_of_isDown (hl : Remembers h l) (hd : h.isDown = true) :
    h.lastNotice = some .down := by
  obtain ⟨t, -, ht⟩ := hl.outage hd
  rw [← hl.lastNotice, ht]
  rfl

/-- An observation brings about what is due after the history of its service, and is remembered. -/
theorem update (hl : Remembers h l) (minInterval : Duration) (c : Observation) :
    Answers minInterval h c (l.update minInterval c.instant c.status).2 ∧
      Remembers (h ++ [(c, (l.update minInterval c.instant c.status).2)])
        (l.update minInterval c.instant c.status).1 := by
  -- The status is healthy or not, and so was the service before.
  cases hc : c.status.isHealthy <;> cases hpast : h.isDown
  case false.false =>
    rw [Liveness.update_outage hc (hl.calm hpast)]
    exact ⟨.outage hc hpast, notified (by simp [hc])⟩
  case false.true =>
    obtain ⟨t, ht, hlast⟩ := hl.outage hpast
    rw [Liveness.update_reminder hc hlast]
    refine ⟨?_, ?_⟩
    · rw [apply_ite Prod.snd]
      exact .reminder hc hpast t ht
    · split
      · exact notified (by simp [hc])
      · exact hl.silent (by rw [hpast, hc]; rfl)
  case true.false =>
    rw [Liveness.update_calm hc (hl.isDown.trans hpast)]
    exact ⟨.calm hc hpast, hl.silent (by rw [hpast, hc]; rfl)⟩
  case true.true =>
    obtain ⟨t, -, hlast⟩ := hl.outage hpast
    rw [Liveness.update_recovery hc (hl.isDown.trans hpast) hlast]
    exact ⟨.recovery hc hpast (hl.lastNotice_of_isDown hpast), notified (by simp [hc])⟩

end Remembers

/-! ## Runs -/

namespace LivenessBook

variable {minInterval : Duration} {b b' : LivenessBook} {c : Observation} {key : String}

/-- What is remembered after an observation, and the notification that is due. -/
def see (minInterval : Duration) (b : LivenessBook) (c : Observation) :
    LivenessBook × Option Notice :=
  b.observeAt minInterval c.instant c.service c.status

/-- What is remembered after some observations. -/
def after (minInterval : Duration) (b : LivenessBook) (cs : List Observation) : LivenessBook :=
  cs.foldl (fun b c => (b.see minInterval c).1) b

/-- Some observations, each with the notification that it brings about. -/
def run (minInterval : Duration) : LivenessBook → List Observation → History
  | _, [] => []
  | b, c :: cs => (c, (b.see minInterval c).2) :: run minInterval (b.see minInterval c).1 cs

theorem snd_see : (b.see minInterval c).2 =
    ((b.memory c.key).update minInterval c.instant c.status).2 := rfl

theorem memory_see : (b.see minInterval c).1.memory key =
    if c.key = key then ((b.memory c.key).update minInterval c.instant c.status).1
    else b.memory key := by
  show ((b.insert c.key _).get? key).getD {} = _
  rw [NameMap.get?_insert]
  by_cases hk : c.key = key
  · rw [if_pos hk, if_pos hk.symm]
    rfl
  · rw [if_neg hk, if_neg (Ne.symm hk)]
    rfl

theorem map_fst_run (cs : List Observation) : (run minInterval b cs).map (·.1) = cs := by
  induction cs generalizing b with
  | nil => rfl
  | cons c cs ih => exact congrArg (c :: ·) ih

theorem run_append (cs ds : List Observation) : run minInterval b (cs ++ ds) =
    run minInterval b cs ++ run minInterval (b.after minInterval cs) ds := by
  induction cs generalizing b with
  | nil => rfl
  | cons c cs ih => exact congrArg (_ :: ·) ih

/-- A run that is cut at an observation: what comes before and after it are runs. -/
theorem run_eq_append_cons {cs : List Observation} {earlier later : History} {a : Option Notice}
    (h : run minInterval b cs = earlier ++ (c, a) :: later) :
    earlier = run minInterval b (earlier.map (·.1)) ∧
      a = ((b.after minInterval (earlier.map (·.1))).see minInterval c).2 ∧
      later = run minInterval ((b.after minInterval (earlier.map (·.1))).see minInterval c).1
        (later.map (·.1)) := by
  -- The observations of a history are those of the run.
  have hcs : cs = earlier.map (·.1) ++ c :: later.map (·.1) := by
    rw [← @map_fst_run minInterval b cs, h, List.map_append, List.map_cons]
  rw [hcs, run_append] at h
  have hlen : (run minInterval b (earlier.map (·.1))).length = earlier.length := by
    have hmap := congrArg List.length (@map_fst_run minInterval b (earlier.map (·.1)))
    simpa only [List.length_map] using hmap
  obtain ⟨hearlier, hrest⟩ := List.append_inj h hlen
  obtain ⟨hc, hlater⟩ := List.cons.inj hrest
  exact ⟨hearlier.symm, (Prod.mk.inj hc).2.symm, hlater.symm⟩

/-! ## What a run remembers -/

/-- What is remembered of each service fits its part of the history. -/
def Faithful (b : LivenessBook) (h : History) : Prop :=
  ∀ key, Remembers (h.about key) (b.memory key)

theorem faithful_empty : Faithful .empty [] := fun _ => remembers_nothing

/-- Every observation preserves the invariant of its own service and touches no other. -/
theorem Faithful.see {h : History} (hb : b.Faithful h) (minInterval : Duration) (c : Observation) :
    (b.see minInterval c).1.Faithful (h ++ [(c, (b.see minInterval c).2)]) := by
  intro key
  rw [memory_see, History.about_snoc]
  by_cases hk : c.key = key
  · subst hk
    rw [if_pos rfl, if_pos rfl]
    exact ((hb c.key).update minInterval c).2
  · rw [if_neg hk, if_neg hk]
    exact hb key

theorem Faithful.after {h : History} (hb : b.Faithful h) (minInterval : Duration)
    (cs : List Observation) :
    (b.after minInterval cs).Faithful (h ++ run minInterval b cs) := by
  induction cs generalizing b h with
  | nil =>
    rw [run, List.append_nil]
    exact hb
  | cons c cs ih =>
    have hrest := ih (hb.see minInterval c)
    rw [List.append_assoc] at hrest
    exact hrest

/-! ## Services do not interfere -/

/-- The observations of a service bring about the same notifications without those of others. -/
theorem about_run (hb : b.memory key = b'.memory key) (cs : List Observation) :
    (run minInterval b cs).about key = run minInterval b' (cs.filter fun c => c.key = key) := by
  -- The two books agree on this service after every step; on the others they need not.
  induction cs generalizing b b' with
  | nil => rfl
  | cons c cs ih =>
    rw [run, History.about]
    by_cases hk : c.key = key
    · rw [List.filter_cons_of_pos (by simpa using hk), List.filter_cons_of_pos (by simpa using hk),
        run]
      have hanswer : (b.see minInterval c).2 = (b'.see minInterval c).2 := by
        rw [snd_see, snd_see, hk, hb]
      have hmemory : (b.see minInterval c).1.memory key = (b'.see minInterval c).1.memory key := by
        rw [memory_see, memory_see, if_pos hk, if_pos hk, hk, hb]
      rw [hanswer]
      exact congrArg (_ :: ·) (ih hmemory)
    · rw [List.filter_cons_of_neg (by simpa using hk), List.filter_cons_of_neg (by simpa using hk)]
      refine ih ?_
      rw [memory_see, if_neg hk, hb]

/-! ## Reminders that are held back leave no trace -/

/-- The same notifications are due after two memories of a service. -/
structure Alike (l l' : Liveness) : Prop where
  isDown : l.isDown = l'.isDown
  lastNotification : l.lastNotification = l'.lastNotification

theorem Alike.update {l l' : Liveness} (h : Alike l l') (minInterval : Duration) (now : Int)
    (s : Status) :
    (l.update minInterval now s).2 = (l'.update minInterval now s).2 ∧
      Alike (l.update minInterval now s).1 (l'.update minInterval now s).1 := by
  have hkind : l.kind? s = l'.kind? s := by
    unfold Liveness.kind?
    rw [h.isDown]
  have hholds : l.holdsBack minInterval now = l'.holdsBack minInterval now := by
    funext kind
    unfold Liveness.holdsBack
    rw [h.lastNotification]
  unfold Liveness.update
  rw [hkind, hholds]
  cases l'.kind? s with
  | none => exact ⟨rfl, rfl, h.lastNotification⟩
  | some kind =>
    dsimp only
    split
    · exact ⟨rfl, rfl, h.lastNotification⟩
    · exact ⟨rfl, rfl, rfl⟩

theorem run_of_alike (h : ∀ key, Alike (b.memory key) (b'.memory key)) (cs : List Observation) :
    run minInterval b cs = run minInterval b' cs := by
  induction cs generalizing b b' with
  | nil => rfl
  | cons c cs ih =>
    obtain ⟨hanswer, hstep⟩ := (h c.key).update minInterval c.instant c.status
    have hnext : ∀ key,
        Alike ((b.see minInterval c).1.memory key) ((b'.see minInterval c).1.memory key) := by
      intro key
      rw [memory_see, memory_see]
      by_cases hk : c.key = key
      · rw [if_pos hk, if_pos hk]
        exact hstep
      · rw [if_neg hk, if_neg hk]
        exact h key
    rw [run, run, ih hnext, snd_see, snd_see, hanswer]

/-- A reminder that is held back changes nothing that matters later. -/
theorem alike_of_held_back {h : History} (hb : b.Faithful h) (hc : c.status.isHealthy = false)
    (hnone : (b.see minInterval c).2 = none) :
    ∀ key, Alike ((b.see minInterval c).1.memory key) (b.memory key) := by
  intro key
  rw [memory_see]
  by_cases hk : c.key = key
  · subst hk
    rw [if_pos rfl]
    -- Only a reminder is held back, so the service stays in its outage.
    have hl := hb c.key
    rw [snd_see] at hnone
    cases hpast : (h.about c.key).isDown with
    | false =>
      rw [Liveness.update_outage hc (hl.calm hpast)] at hnone
      cases hnone
    | true =>
      obtain ⟨t, -, hlast⟩ := hl.outage hpast
      rw [Liveness.update_reminder hc hlast] at hnone ⊢
      split at hnone
      · cases hnone
      · next hdue =>
        rw [if_neg hdue]
        refine ⟨?_, rfl⟩
        rw [hl.isDown, hpast]
        exact congrArg not hc
  · rw [if_neg hk]
    exact ⟨rfl, rfl⟩

/-! ## Runs from the start -/

section Start
variable {cs : List Observation} {earlier later : History} {a : Option Notice}

theorem faithful_of_run (h : run minInterval .empty cs = earlier ++ (c, a) :: later) :
    (after minInterval .empty (earlier.map (·.1))).Faithful earlier := by
  have hfaithful := faithful_empty.after minInterval (earlier.map (·.1))
  rw [List.nil_append, ← (run_eq_append_cons h).1] at hfaithful
  exact hfaithful

theorem answers_of_run (h : run minInterval .empty cs = earlier ++ (c, a) :: later) :
    Answers minInterval (History.about earlier c.key) c a := by
  rw [(run_eq_append_cons h).2.1]
  exact ((faithful_of_run h c.key).update minInterval c).1

/-- A reminder that is held back may be left out. -/
theorem run_without_reminder (h : run minInterval .empty cs = earlier ++ (c, none) :: later)
    (hc : c.status.isHealthy = false) :
    run minInterval .empty ((earlier ++ later).map (·.1)) = earlier ++ later := by
  obtain ⟨hearlier, hnone, hlater⟩ := run_eq_append_cons h
  have halike := alike_of_held_back (faithful_of_run h) hc hnone.symm
  rw [run_of_alike halike] at hlater
  rw [List.map_append, run_append, ← hearlier, ← hlater]

/-- The notification of a service before a recovery is one of an outage. -/
theorem getLast?_before_restored {key : String} {before rest : List Notice}
    (h : ((run minInterval .empty cs).about key).notices = before ++ .restored :: rest) :
    before.getLast? = some .down := by
  rw [about_run rfl] at h
  obtain ⟨first, second, hrun, rfl, hrest⟩ := List.filterMap_eq_append_iff.1 h
  obtain ⟨quiet, ⟨c, a⟩, later, rfl, hquiet, ha, -⟩ := List.filterMap_eq_cons_iff.1 hrest
  rw [← List.append_assoc] at hrun
  -- All of this run is about one service.
  have hkeys : ∀ p ∈ (first ++ quiet) ++ (c, a) :: later, p.1.key = key := by
    intro p hp
    have hmem := List.mem_map_of_mem (f := Prod.fst) hp
    rw [← hrun, map_fst_run] at hmem
    simpa using (List.mem_filter.1 hmem).2
  have hc : c.key = key := hkeys (c, a) (by simp)
  have habout : History.about (first ++ quiet) c.key = first ++ quiet := by
    refine List.filter_eq_self.2 fun p hp => ?_
    simpa [hc] using hkeys p (List.mem_append_left _ hp)
  have hquiet' : History.notices quiet = [] := List.filterMap_eq_nil_iff.2 hquiet
  have hlast := (answers_of_run hrun).lastNotice_of_restored ha
  rw [habout, History.lastNotice, History.notices, List.filterMap_append] at hlast
  rw [History.notices] at hquiet'
  rwa [hquiet', List.append_nil] at hlast

end Start

/-- For every run from the start: what an observation brings about depends on the earlier ones of the
same service only, and is due after them; the notifications of a service begin with an outage, with
one between any two recoveries; and a reminder that is held back may be left out. -/
theorem run_notices (minInterval : Duration) (cs : List Observation) :
    (∀ key, (run minInterval .empty cs).about key =
        run minInterval .empty (cs.filter fun c => c.key = key)) ∧
      (∀ earlier c a later, run minInterval .empty cs = earlier ++ (c, a) :: later →
        Answers minInterval (History.about earlier c.key) c a) ∧
      (∀ key before rest,
        ((run minInterval .empty cs).about key).notices = before ++ .restored :: rest →
          before.getLast? = some .down) ∧
      ∀ earlier c later, run minInterval .empty cs = earlier ++ (c, none) :: later →
        c.status.isHealthy = false →
          run minInterval .empty ((earlier ++ later).map (·.1)) = earlier ++ later :=
  ⟨fun _ => about_run rfl cs, fun _ _ _ _ h => answers_of_run h,
    fun _ _ _ h => getLast?_before_restored h, fun _ _ _ h hc => run_without_reminder h hc⟩

/-- Two spellings of one service, with a clock that is set back: the first status is notified, and the
reminder is held back. -/
theorem run_notices_spellings :
    let cs : List Observation := [⟨"api", .unhealthy, 50⟩, ⟨"API", .degraded, 20⟩]
    run (.ofNanos 10) .empty cs =
        [(⟨"api", .unhealthy, 50⟩, some .down), (⟨"API", .degraded, 20⟩, none)] ∧
      Answers (.ofNanos 10) [(⟨"api", .unhealthy, 50⟩, some .down)] ⟨"API", .degraded, 20⟩ none := by
  intro cs
  have h : run (.ofNanos 10) .empty cs =
      [(⟨"api", .unhealthy, 50⟩, some .down), (⟨"API", .degraded, 20⟩, none)] := by decide
  obtain ⟨-, hanswers, -, -⟩ := run_notices (.ofNanos 10) cs
  exact ⟨h, hanswers [_] _ _ [] h⟩

end LivenessBook

end HealthWatch
