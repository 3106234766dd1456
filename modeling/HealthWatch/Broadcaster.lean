import HealthWatch.Evaluation
import HealthWatch.Publisher
/-!
# Broadcasting reports

After a delay, and then at every tick of a period, the selected checks are evaluated within a
timeout, and the report is given to every publisher: this is a round. A round whose tick is due
while the one before is still going starts when that ends; if it starts more than five milliseconds
late, the ticks after it are counted from its start. At the shutdown everything stops, an evaluation
in progress too, and a shutdown at the instant of a tick comes first.

Instants are milliseconds after the start of the broadcaster.
-/

namespace HealthWatch

/-- When rounds take place, and what they evaluate. -/
structure Schedule where
  delay : Duration := .ofSecs 5
  period : Duration := .ofSecs 30
  timeout : Duration := .ofSecs 30
  selector : Selector := .all

/-- Evaluates periodically and publishes the reports. -/
structure Broadcaster where
  evaluator : Evaluator
  schedule : Schedule := {}
  publishers : List Publisher := []

/-- What one publisher does with a report, and when it is done. -/
structure PublisherEvent where
  publisher : String
  report : Report
  /-- When it is done, none when it never is. -/
  doneAt : Option Nat
  publication : Publication

/-- One evaluation and what is published of it. -/
structure Round where
  /-- The instant of its tick. -/
  due : Nat
  startedAt : Nat
  evaluation : Evaluation
  /-- When the evaluation and all publishers are done, none when they never are. -/
  endedAt : Option Nat
  events : List PublisherEvent

/-- A round, with what it leaves behind. -/
structure RoundResult where
  round : Round
  /-- The counts of calls after it. -/
  counts : CallCounts
  /-- The report that the publishers got, none when the evaluation did not complete. -/
  delivery : Option Delivery

/-- Where a broadcaster stands between two rounds. -/
structure BroadcasterState where
  /-- The instant of the next tick. -/
  due : Nat
  /-- When the round before ended, none when it never does. -/
  freeAt : Option Nat
  counts : CallCounts := .empty
  delivered : List Delivery := []

namespace Broadcaster

/-- How late a round may start without a shift of the ticks after it, in milliseconds. -/
def lateness : Nat := 5

def publisherNames (b : Broadcaster) : List String := b.publishers.map (·.name)

/-! ## One round -/

/-- What the publishers do with a report. -/
def deliver (b : Broadcaster) (earlier : List Delivery) (doneAt : Nat) (d : Delivery) :
    List PublisherEvent :=
  b.publishers.map fun p =>
    let publication := p.publish earlier d
    { publisher := p.name
      report := d.report
      doneAt := publication.wait.map (doneAt + ·)
      publication }

/-- When the last of several publishers is done. -/
def lastDone (doneAt : Nat) (events : List PublisherEvent) : Option Nat :=
  events.foldr (fun e t => later e.doneAt t) (some doneAt)

/-- The round of a tick, begun at an instant. -/
def round (b : Broadcaster) (now : Int) (counts : CallCounts) (earlier : List Delivery)
    (due startedAt : Nat) : RoundResult :=
  let e := b.evaluator.evaluate counts (now + startedAt) b.schedule.selector
    { deadline := some b.schedule.timeout }
  let doneAt := e.1.endsAt.map (startedAt + ·)
  let delivery := match e.1.report?, doneAt with
    | some report, some doneAt => some (doneAt, { time := now + doneAt, report : Delivery })
    | _, _ => none
  let events := match delivery with
    | some (doneAt, d) => b.deliver earlier doneAt d
    | none => []
  { round := {
      due
      startedAt
      evaluation := e.1
      endedAt := doneAt.bind fun doneAt => lastDone doneAt events
      events }
    counts := e.2
    delivery := delivery.map (·.2) }

/-! ## Rounds one after another -/

/-- The tick after the one due at `due`, whose round started at `startedAt`. -/
def nextDue (b : Broadcaster) (due startedAt : Nat) : Nat :=
  if startedAt ≤ due + lateness then due + b.schedule.period.ceilMillis
  else startedAt + b.schedule.period.ceilMillis

def start (b : Broadcaster) : BroadcasterState :=
  { due := b.schedule.delay.ceilMillis, freeAt := some 0 }

/-- The instant at which the next round starts, none when the one before never ends. -/
def nextStart (s : BroadcasterState) : Option Nat := s.freeAt.map (max · s.due)

/-- The next round, begun at `startedAt`, and where the broadcaster stands after it. -/
def step (b : Broadcaster) (now : Int) (s : BroadcasterState) (startedAt : Nat) :
    Round × BroadcasterState :=
  let r := b.round now s.counts s.delivered s.due startedAt
  (r.round, {
    due := b.nextDue s.due startedAt
    freeAt := r.round.endedAt
    counts := r.counts
    delivered := s.delivered ++ r.delivery.toList })

/-- The rounds that start before an instant; every tick is later than the one before, so there are
not more of them than milliseconds. -/
def roundsBefore (b : Broadcaster) (now : Int) (shutdownAt : Nat) :
    Nat → BroadcasterState → List Round
  | 0, _ => []
  | fuel + 1, s =>
    match nextStart s with
    | none => []
    | some startedAt =>
      if startedAt < shutdownAt then
        let next := b.step now s startedAt
        next.1 :: roundsBefore b now shutdownAt fuel next.2
      else []

/-- The rounds of a broadcaster that is shut down at an instant, none when the period is zero and it
cannot begin. -/
def rounds? (b : Broadcaster) (now : Int) (shutdownAt : Nat) : Option (List Round) :=
  if b.schedule.period.nanos = 0 then none
  else some (b.roundsBefore now shutdownAt (shutdownAt + 1) b.start)

end Broadcaster

/-- What publishers have the metrics record in a round, in order. -/
def Round.recorded (r : Round) : List Report := r.events.filterMap (·.publication.recorded)

/-! ## What is seen of rounds that are cut short -/

namespace Round

/-- What publishers have done before an instant, in the order in which it was done. -/
def eventsBefore (instant : Nat) (rounds : List Round) : List (Nat × PublisherEvent) :=
  rounds.flatMap fun r =>
    let done := r.events.filterMap fun e => e.doneAt.map (·, e)
    (done.filter fun p => p.1 < instant).mergeSort fun a b => a.1 ≤ b.1

/-- Whether the token of a call is cancelled when the broadcaster is stopped at an instant. An
evaluation that is stopped on its way cancels nothing by that. -/
def cancelsAt (instant : Nat) (r : Round) (call : StartedCall) : Bool :=
  if r.evaluation.endsAt.any fun e => r.startedAt + e < instant then r.evaluation.cancels call
  else call.timeoutAt.any fun t => r.startedAt + t ≤ instant

/-- For each check with a started call, whether the token of each of its calls is cancelled when the
broadcaster is stopped at an instant. -/
def tokens (instant : Nat) (rounds : List Round) : NameMap (List Bool) :=
  rounds.foldl (fun m r =>
    r.evaluation.calls.foldl (fun m call =>
      m.insert call.check ((m.get? call.check).getD [] ++ [r.cancelsAt instant call])) m) .empty

end Round

end HealthWatch
