import HealthWatch.Registry
/-!
# Evaluations

An evaluation runs the selected checks side by side. Each check ends when its call does or when its
timeout fires, whichever is first; a call that ends at the instant of the timeout counts. Failures
of every kind become outcomes of the check. The evaluation ends with its last check, unless a
deadline or the caller cancels it at that instant or before.

All instants are milliseconds after the start. Timers fire at whole milliseconds, rounded up.
-/

namespace HealthWatch

/-- How often the shared probe of each check has been called. -/
abbrev CallCounts := NameMap Nat

/-- When an evaluation is cut short. -/
structure EvaluationLimits where
  deadline : Option Duration := none
  /-- Whether the caller has cancelled before the start. -/
  cancelledBefore : Bool := false
  /-- When the caller cancels, in milliseconds after the start. -/
  cancelAt : Option Nat := none

/-- Whether the evaluation is over before it starts. -/
def EvaluationLimits.stopsAtStart (o : EvaluationLimits) : Bool :=
  o.cancelledBefore || o.deadline.any fun d => d.ceilMillis = 0

/-- Runs the checks of a registry. -/
structure Evaluator where
  registry : Registry := .empty
  services : Services := .empty
  /-- The timeout of checks without one of their own. -/
  defaultTimeout : Option Duration := none

/-- What a probe is told about the check. -/
def Registration.context (r : Registration) : Context :=
  { name := r.name, failureStatus := r.failureStatus }

/-- The number of the next call of a check: a shared probe counts the calls of all evaluations. -/
def CallCounts.next (counts : CallCounts) (r : Registration) : Nat :=
  if r.source.isShared then (counts.get? r.name).getD 0 + 1 else 1

/-- The timeout of a check, its own or the default. -/
def Evaluator.timeout (e : Evaluator) (r : Registration) : Option Duration :=
  r.timeout <|> e.defaultTimeout

/-- What becomes of a check in an evaluation that lasts long enough. -/
structure CheckCourse where
  check : Registration
  /-- When the check ends, none when it never does. -/
  endsAt : Option Nat
  /-- What its task reports, none when the task dies. -/
  outcome : Option Outcome
  /-- Whether its probe was called. -/
  called : Bool
  /-- When its timeout fires, if it does before the call ends. -/
  timeoutAt : Option Nat

/-- The earlier of two instants; none is never. -/
def earlier : Option Nat → Option Nat → Option Nat
  | some a, some b => some (min a b)
  | some a, none => some a
  | none, b => b

/-- The later of two instants; none is never. -/
def later : Option Nat → Option Nat → Option Nat
  | some a, some b => some (max a b)
  | _, _ => none

/-- The last of several instants, zero when there are none. -/
def latest (instants : List (Option Nat)) : Option Nat := instants.foldr later (some 0)

/-- When a timer fires, never when it is not set. -/
def firesAt (timer : Option Duration) : Option Nat := timer.map (·.ceilMillis)

/-- The shorter of two durations, of which there may be none. -/
def shorter? : Option Duration → Option Duration → Option Duration
  | some a, some b => some (a.shorter b)
  | some a, none => some a
  | none, b => b

/-- The outcome that is reported for the way a call ended. -/
def Ending.toOutcome (failureStatus : Status) : Ending → Outcome
  | outcome o => o
  | error e => e.outcome failureStatus
  | panic payload => payload.error.outcome failureStatus

namespace CheckCourse

/-- Whether the check is over, with its call still going, when its timeout fires. -/
def timesOut (endsAfter timeout : Option Nat) : Bool :=
  match endsAfter, timeout with
  | some e, some t => t < e
  | none, some _ => true
  | _, none => false

/-- The course of a check whose `number`th call is to be made, with a timeout of its own or the
default, but no longer than the time up to the deadline. -/
def ofCheck (e : Evaluator) (deadline : Option Duration) (number : Nat) (r : Registration) :
    CheckCourse :=
  match r.source.probe e.services with
  | .error fault =>
    { check := r, endsAt := some 0, outcome := some (fault.toError.outcome r.failureStatus),
      called := false, timeoutAt := none }
  | .ok probe =>
    let call := probe.call number r.context
    let timeout := shorter? (e.timeout r) deadline
    let late := timesOut call.endsAfter (firesAt timeout)
    let reported := if late then (ProbeFailure.timeout (timeout.getD .zero)).outcome r.failureStatus
      else call.ending.toOutcome r.failureStatus
    { check := r
      endsAt := earlier call.endsAfter (firesAt timeout)
      -- A fresh instance is released with the task, a shared one outlives it.
      outcome := if probe.panicsOnRelease && !r.source.isShared then none else some reported
      called := true
      timeoutAt := if late then firesAt timeout else none }

/-- The entry of a check that reported, stamped with its time and its tags; none if its task
died. -/
def entry? (course : CheckCourse) : Option Outcome :=
  course.outcome.map fun o =>
    { o with duration := .ofMillis (course.endsAt.getD 0), tags := course.check.tags }

/-- The failure of a check whose task died. -/
def lost : ProbeFailure := .failed "health check task did not complete"

/-- The entry of a check whose task died, when it is missed after all the others. -/
def missed (total : Duration) (course : CheckCourse) : Outcome :=
  { lost.outcome course.check.failureStatus with duration := total, tags := course.check.tags }

end CheckCourse

/-- A call that an evaluation has started. -/
structure StartedCall where
  check : String
  /-- When the timeout of the check fires, if it does before the call ends. -/
  timeoutAt : Option Nat
  deriving DecidableEq

/-- What an evaluation comes to. -/
inductive Verdict where
  | completed (report : Report)
  | cancelled
  /-- It never ends. -/
  | pending

/-- An evaluation as its caller sees it. -/
structure Evaluation where
  verdict : Verdict
  /-- When it ends, none when it never does. -/
  endsAt : Option Nat
  /-- The calls that were started, in order. -/
  calls : List StartedCall

namespace Evaluation

/-- The wording of a cancelled evaluation. -/
def cancelledMessage : String := "evaluation cancelled before all checks completed"

def report? (v : Evaluation) : Option Report :=
  match v.verdict with
  | .completed r => some r
  | _ => none

/-- Whether the token of a call is cancelled when the evaluation has ended. -/
def cancels (v : Evaluation) (c : StartedCall) : Bool :=
  match v.verdict with
  | .completed _ => c.timeoutAt.isSome
  | .cancelled => true
  | .pending => c.timeoutAt.isSome

/-- An evaluation that is cancelled before it starts anything. -/
def stillborn : Evaluation := ⟨.cancelled, some 0, []⟩

end Evaluation

namespace Evaluator

/-- The courses of the checks that a selector accepts, in the order of the registry. -/
def courses (e : Evaluator) (counts : CallCounts) (s : Selector) (deadline : Option Duration) :
    List CheckCourse :=
  (e.registry.select s).map fun r => .ofCheck e deadline (counts.next r) r

def lastEnd (courses : List CheckCourse) : Option Nat := latest (courses.map (·.endsAt))

/-- When the deadline or the caller cancels the evaluation. -/
def limit (o : EvaluationLimits) : Option Nat :=
  earlier (firesAt o.deadline) o.cancelAt

/-- The entries of the tasks that reported, in the order in which they were joined. -/
def reportedPairs (joined : List CheckCourse) : List (String × Outcome) :=
  joined.filterMap fun course => course.entry?.map fun o => (course.check.name, o)

/-- The entries with one for each check that is missing from them. -/
def enterMissed (total : Duration) (selected : List CheckCourse) (entries : NameMap Outcome) :
    NameMap Outcome :=
  selected.foldl (fun entries course =>
    if entries.contains course.check.name then entries
    else entries.insert course.check.name (course.missed total)) entries

/-- The entries of checks whose tasks were joined in some order; a check that did not report gets
an entry of its own. -/
def gather (total : Duration) (selected joined : List CheckCourse) : NameMap Outcome :=
  enterMissed total selected (.ofList (reportedPairs joined))

def startedCall? (course : CheckCourse) : Option StartedCall :=
  if course.called then some ⟨course.check.name, course.timeoutAt⟩ else none

def countCalls (counts : CallCounts) (courses : List CheckCourse) : CallCounts :=
  courses.foldl (fun m course =>
    if course.called && course.check.source.isShared then
      m.insert course.check.name ((m.get? course.check.name).getD 0 + 1)
    else m) counts

/-- What the courses of the selected checks come to, and when; the deadline and the caller win a tie
with the last check. -/
def conclude (now : Int) (o : EvaluationLimits) (courses : List CheckCourse) :
    Verdict × Option Nat :=
  match lastEnd courses, limit o with
  | some f, l =>
    -- At a tie the evaluation is cut short.
    if l.all (f < ·) then
      (.completed ⟨gather (.ofMillis f) courses courses, .ofMillis f, now⟩, some f)
    else (.cancelled, l)
  | none, some l => (.cancelled, some l)
  | none, none => (.pending, none)

/-- The evaluation of the checks that a selector accepts, begun at `now`, and the counts of calls
after it. -/
def evaluate (e : Evaluator) (counts : CallCounts) (now : Int) (s : Selector)
    (o : EvaluationLimits) : Evaluation × CallCounts :=
  if o.stopsAtStart then (.stillborn, counts)
  else
    let courses := e.courses counts s o.deadline
    let conclusion := conclude now o courses
    (⟨conclusion.1, conclusion.2, courses.filterMap startedCall?⟩, countCalls counts courses)

end Evaluator

end HealthWatch
