import HealthWatch.Evaluation
import Mathlib.Data.Set.Insert
/-!
# Evaluations side by side

Evaluations on one evaluator may overlap. They share the checks and the counts of calls, and each has a
tree of tokens of its own. The tasks of the checks take their turns in any order: `Move` says what one
evaluation may do next, and `Step` that the clock moves on only when nobody has anything left to do at the
instant. A probe is free to do anything once its token is cancelled, whoever cancelled it.
-/

namespace HealthWatch

variable {ι : Type}

/-- An evaluation that is to take place: what is asked for, when it begins, and what the wall clock shows
then. -/
structure Booking where
  selector : Selector := .all
  limits : EvaluationLimits := {}
  startsAt : Nat := 0
  wall : Int := 0

/-! ## Tokens -/

/-- The tokens of evaluations that are told apart by names of a type. -/
inductive CancelToken (ι : Type) where
  /-- The token that the caller of an evaluation hands in. -/
  | caller (i : ι)
  | evaluation (i : ι)
  /-- The token that the probe of a check gets. -/
  | check (i : ι) (name : String)

namespace CancelToken

/-- The token that a token is a child of. -/
def parent? : CancelToken ι → Option (CancelToken ι)
  | caller _ => none
  | evaluation i => some (caller i)
  | check i _ => some (evaluation i)

def owner : CancelToken ι → ι
  | caller i => i
  | evaluation i => i
  | check i _ => i

/-- A token is cancelled when it has been cancelled itself, or the token that it is a child of. -/
inductive Cancelled (cancelled : Set (CancelToken ι)) : CancelToken ι → Prop
  | itself {t : CancelToken ι} (h : t ∈ cancelled) : Cancelled cancelled t
  | inherited {t p : CancelToken ι} (hparent : t.parent? = some p) (h : Cancelled cancelled p) :
      Cancelled cancelled t

end CancelToken

/-! ## Worlds -/

/-- Where an evaluation stands. -/
inductive Stage where
  /-- It has not begun. -/
  | ahead
  /-- Some tasks have not had their first turn, some are live, and some have been joined. -/
  | underWay (waiting : List Registration) (live joined : List CheckCourse)
  | finished (verdict : Verdict) (endedAt : Nat)

/-- Where all evaluations stand at an instant. -/
structure World (ι : Type) where
  clock : Nat
  counts : CallCounts
  stage : ι → Stage
  /-- The tokens that have been cancelled themselves. -/
  cancelled : Set (CancelToken ι)
  /-- The calls of probes so far, the last one first. -/
  calls : List (ι × String)

namespace World

/-- The world before anything has begun. Some callers have cancelled their tokens. -/
def start (counts : CallCounts) (plan : ι → Booking) : World ι where
  clock := 0
  counts := counts
  stage _ := .ahead
  cancelled := {t | ∃ i, t = .caller i ∧ (plan i).limits.cancelledBefore = true}
  calls := []

/-- The world with an evaluation at another stage. -/
def become [DecidableEq ι] (w : World ι) (i : ι) (s : Stage) : World ι :=
  { w with stage := Function.update w.stage i s }

def cancel (w : World ι) (t : CancelToken ι) : World ι := { w with cancelled := insert t w.cancelled }

/-- The world after the first turn of a task, in which it calls its probe, if it has one. -/
def call (w : World ι) (i : ι) (c : CheckCourse) : World ι :=
  { w with
    counts := Evaluator.countCalls w.counts [c]
    calls := if c.called then (i, c.check.name) :: w.calls else w.calls }

/-- The world a millisecond later. -/
def later (w : World ι) : World ι := { w with clock := w.clock + 1 }

end World

/-! ## What may happen -/

/-- What one evaluation may do next. -/
inductive Move [DecidableEq ι] (e : Evaluator) (plan : ι → Booking) (i : ι) (w : World ι) :
    World ι → Prop
  /-- It is over before it starts anything. -/
  | refuse (hstage : w.stage i = .ahead) (htime : (plan i).startsAt ≤ w.clock)
      (hstop : (plan i).limits.stopsAtStart = true) :
      Move e plan i w ((w.become i (.finished .cancelled w.clock)).cancel (.evaluation i))
  /-- It spawns a task for each of the selected checks. -/
  | begin (hstage : w.stage i = .ahead) (htime : (plan i).startsAt ≤ w.clock)
      (hgo : (plan i).limits.stopsAtStart = false) :
      Move e plan i w (w.become i (.underWay (e.registry.select (plan i).selector) [] []))
  /-- A task has its first turn: it makes its probe and calls it, with the number that comes next. -/
  | poll {before after : List Registration} {r : Registration} {live joined : List CheckCourse}
      (hstage : w.stage i = .underWay (before ++ r :: after) live joined) :
      Move e plan i w ((w.call i (.ofCheck e (plan i).limits.deadline (w.counts.next r) r)).become i
        (.underWay (before ++ after)
          (.ofCheck e (plan i).limits.deadline (w.counts.next r) r :: live) joined))
  /-- A task is joined after its call has ended, or after it has died. -/
  | report {waiting : List Registration} {before after joined : List CheckCourse} {c : CheckCourse}
      {n : Nat} (hstage : w.stage i = .underWay waiting (before ++ c :: after) joined)
      (hend : c.endsAt = some n) (hdue : (plan i).startsAt + n ≤ w.clock) (hquiet : c.timeoutAt = none)
      (htoken : ¬ CancelToken.Cancelled w.cancelled (.check i c.check.name)) :
      Move e plan i w (w.become i (.underWay waiting (before ++ after) (c :: joined)))
  /-- A task is joined after its timeout, which cancels the token of the check. -/
  | timeOut {waiting : List Registration} {before after joined : List CheckCourse} {c : CheckCourse}
      {n : Nat} (hstage : w.stage i = .underWay waiting (before ++ c :: after) joined)
      (hend : c.endsAt = some n) (hdue : (plan i).startsAt + n ≤ w.clock) (hlate : c.timeoutAt ≠ none)
      (htoken : ¬ CancelToken.Cancelled w.cancelled (.check i c.check.name)) :
      Move e plan i w ((w.become i (.underWay waiting (before ++ after) (c :: joined))).cancel
        (.check i c.check.name))
  /-- A task of which the token is cancelled ends in any way and at any time. -/
  | stray {waiting : List Registration} {before after joined : List CheckCourse} {c : CheckCourse}
      (hstage : w.stage i = .underWay waiting (before ++ c :: after) joined) (c' : CheckCourse)
      (hcheck : c'.check = c.check) (htoken : CancelToken.Cancelled w.cancelled (.check i c.check.name)) :
      Move e plan i w (w.become i (.underWay waiting (before ++ after) (c' :: joined)))
  /-- The caller cancels, whether the evaluation is still going or not. -/
  | withdraw {n : Nat} (hstage : w.stage i ≠ .ahead) (hcancel : (plan i).limits.cancelAt = some n)
      (hdue : (plan i).startsAt + n ≤ w.clock) (hfirst : CancelToken.caller i ∉ w.cancelled) :
      Move e plan i w (w.cancel (.caller i))
  /-- The caller has cancelled. The tasks that are left are dropped. -/
  | abandon {waiting : List Registration} {live joined : List CheckCourse}
      (hstage : w.stage i = .underWay waiting live joined)
      (htoken : CancelToken.Cancelled w.cancelled (.caller i)) :
      Move e plan i w ((w.become i (.finished .cancelled w.clock)).cancel (.evaluation i))
  /-- The deadline strikes. The tasks that are left are dropped. -/
  | expire {waiting : List Registration} {live joined : List CheckCourse} {d : Duration}
      (hstage : w.stage i = .underWay waiting live joined) (hdeadline : (plan i).limits.deadline = some d)
      (hdue : (plan i).startsAt + d.ceilMillis ≤ w.clock) :
      Move e plan i w ((w.become i (.finished .cancelled w.clock)).cancel (.evaluation i))
  /-- All tasks have been joined, in whatever order, and nothing has stopped the evaluation. -/
  | complete {joined selected : List CheckCourse} {f : Nat} (hstage : w.stage i = .underWay [] [] joined)
      (htime : (plan i).startsAt + f = w.clock)
      (hleave : (Evaluator.limit (plan i).limits).all (f < ·) = true)
      (hjoined : joined.Perm selected)
      (hselected : selected.map (·.check) = e.registry.select (plan i).selector) :
      Move e plan i w (w.become i (.finished (.completed ⟨Evaluator.gather (.ofMillis f) selected joined,
        .ofMillis f, (plan i).wall⟩) w.clock))

/-- What may happen next: a move of one of the evaluations, or, when there is none, the tick of the clock. -/
inductive Step [DecidableEq ι] (e : Evaluator) (plan : ι → Booking) (w : World ι) : World ι → Prop
  | move {w' : World ι} (i : ι) (h : Move e plan i w w') : Step e plan w w'
  | tick (hidle : ∀ i w', ¬ Move e plan i w w') : Step e plan w w.later

/-- A run of all evaluations from the start on. -/
structure World.Run [DecidableEq ι] (e : Evaluator) (plan : ι → Booking) (counts : CallCounts) where
  world : Nat → World ι
  first : world 0 = .start counts plan
  next (k : Nat) : Step e plan (world k) (world (k + 1))

end HealthWatch
