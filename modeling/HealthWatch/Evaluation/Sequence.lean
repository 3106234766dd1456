import HealthWatch.Evaluation
/-!
# Sequences of evaluations

Several evaluations on one evaluator, one after another or all at once. The wall clock that dates
the reports may be set between them, while the clock of the timers only moves on. A caller's
token can be cancelled after its evaluation has ended; it then still reaches the calls of that
evaluation, provided that the clock gets there.
-/

namespace HealthWatch

/-- One evaluation of a sequence. -/
structure EvaluationRequest where
  selector : Selector := .all
  limits : EvaluationLimits := {}
  /-- How far the wall clock is moved before the start, in milliseconds. -/
  wallShift : Int := 0

/-- An evaluation with its place on the clock of the timers. -/
structure TimedEvaluation where
  startedAt : Nat
  cancelAt : Option Nat
  evaluation : Evaluation

namespace TimedEvaluation

/-- When the evaluation was over; one that never ends counts from its start. -/
def endedAt (t : TimedEvaluation) : Nat := t.startedAt + t.evaluation.endsAt.getD 0

/-- Whether the token of a call is cancelled at an instant after the evaluation. -/
def cancelsBy (t : TimedEvaluation) (instant : Nat) (c : StartedCall) : Bool :=
  t.evaluation.cancels c || t.cancelAt.any (fun a => t.startedAt + a ≤ instant)

end TimedEvaluation

namespace Evaluator

/-- Where a sequence of evaluations stands. -/
structure Progress where
  clock : Nat
  wall : Int
  counts : CallCounts
  done : List TimedEvaluation

/-- One more evaluation, begun now; `together` leaves the clock where it is. -/
def Progress.step (e : Evaluator) (together : Bool) (p : Progress) (q : EvaluationRequest) :
    Progress :=
  let wall := p.wall + q.wallShift
  let v := e.evaluate p.counts wall q.selector q.limits
  let t : TimedEvaluation := ⟨p.clock, q.limits.cancelAt, v.1⟩
  { clock := if together then p.clock else t.endedAt
    wall := wall
    counts := v.2
    done := p.done ++ [t] }

/-- The evaluations of a sequence, and the counts of calls after it. -/
def evaluateAll (e : Evaluator) (together : Bool) (now : Int) (requests : List EvaluationRequest) :
    List TimedEvaluation :=
  (requests.foldl (Progress.step e together) ⟨0, now, .empty, []⟩).done

def finalInstant (done : List TimedEvaluation) : Nat :=
  done.foldr (fun t instant => max t.endedAt instant) 0

/-- For each check with a started call, whether the token of each of its calls is cancelled after
all the evaluations. -/
def tokens (done : List TimedEvaluation) : NameMap (List Bool) :=
  let instant := finalInstant done
  done.foldl (fun m t =>
    t.evaluation.calls.foldl (fun m c =>
      m.insert c.check ((m.get? c.check).getD [] ++ [t.cancelsBy instant c])) m) .empty

end Evaluator

end HealthWatch
