import HealthWatch.Duration
import HealthWatch.NameMap
import HealthWatch.Status
import HealthWatch.Text.Lowercase
/-!
# When to notify

A service that is not healthy is reported down, and the first healthy status after that reports it
restored. While an outage lasts, a reminder is due only when the last notification is at least a
minimum interval old; a reminder that is held back does not count. Services are told apart by their
names in lower case.
-/

namespace HealthWatch

/-- The kinds of notifications. -/
inductive Notice where
  | down
  | restored
  deriving DecidableEq, Repr

def Notice.name : Notice → String
  | down => "Down"
  | restored => "Restored"

/-- What is remembered of a service. -/
structure Liveness where
  lastStatus : Option Status := none
  /-- The last notification and its time, in nanoseconds since 1970. -/
  lastNotification : Option (Notice × Int) := none

namespace Liveness

/-- Whether the service was last seen in an outage. -/
def isDown (l : Liveness) : Bool := l.lastStatus.any fun p => !p.isHealthy

/-- The kind of notification that a status calls for. -/
def kind? (l : Liveness) (s : Status) : Option Notice :=
  if !s.isHealthy then some .down
  else if l.isDown then some .restored
  else none

/-- Whether the last notification was of this kind and is not yet as old as the interval. A clock
that was set back counts as standing still. -/
def holdsBack (l : Liveness) (minInterval : Duration) (now : Int)
    (kind : Notice) : Bool :=
  l.lastNotification.any fun (last, at') =>
    last = kind && (now - at').toNat < minInterval.nanos

/-- What is remembered after a status, and the notification that is due. -/
def update (l : Liveness) (minInterval : Duration) (now : Int) (s : Status) :
    Liveness × Option Notice :=
  let seen := { l with lastStatus := some s }
  match l.kind? s with
  | none => (seen, none)
  | some kind =>
    if l.holdsBack minInterval now kind then (seen, none)
    else ({ seen with lastNotification := some (kind, now) }, some kind)

end Liveness

/-- What is remembered of all services, by their names in lower case. -/
abbrev LivenessBook := NameMap Liveness

namespace LivenessBook

/-- What is remembered of the service with a name in lower case. -/
def memory (b : LivenessBook) (key : String) : Liveness := (b.get? key).getD {}

/-- What is remembered after a status of a service at an instant, in nanoseconds since 1970, and the
notification that is due. -/
def observeAt (b : LivenessBook) (minInterval : Duration) (instant : Int) (name : String)
    (s : Status) : LivenessBook × Option Notice :=
  let key := Text.lowercase name
  let updated := (b.memory key).update minInterval instant s
  (b.insert key updated.1, updated.2)

/-- The same at a whole millisecond since 1970. -/
def observe (b : LivenessBook) (minInterval : Duration) (now : Int) (name : String)
    (s : Status) : LivenessBook × Option Notice :=
  b.observeAt minInterval (now * 1_000_000) name s

end LivenessBook

end HealthWatch
