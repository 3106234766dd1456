import HealthWatch.Outcome
import HealthWatch.Services
/-!
# Probes

A probe tests one dependency. On a clock that ticks in milliseconds, all that an evaluation sees of
a call is when it ends, if ever, and how: with an outcome, with an error, or by a panic. A probe may
keep count of its calls, so a call is a function of its number. A source either shares one probe
among all evaluations or makes a fresh one for each, which may fail.
-/

namespace HealthWatch

/-- What a probe, or the making of one, can fail with. -/
inductive ProbeFailure where
  | failed (message : String)
  | timeout (after : Duration)
  | missingDependency (service : String)
  | cancelled
  | http (detail : String)
  | io (detail : String)
  | panicked (message : String)
  deriving DecidableEq

def ProbeFailure.message : ProbeFailure → String
  | failed message => message
  | timeout after => "probe timed out after " ++ after.text
  | missingDependency service => "missing required dependency: " ++ service
  | cancelled => "probe was cancelled"
  | http detail => "HTTP request failed: " ++ detail
  | io detail => "I/O error: " ++ detail
  | panicked message => "probe panicked: " ++ message

/-- The outcome of a check that failed with an error; a timeout is described in milliseconds. -/
def ProbeFailure.outcome (failureStatus : Status) (e : ProbeFailure) : Outcome where
  status := failureStatus
  description := some <| match e with
    | timeout after => "Timed out after " ++ Numeral.text after.millis ++ "ms"
    | e => e.message
  error := some e.message

/-- What a panic carries. -/
inductive PanicPayload where
  | text (s : String)
  /-- Something that is no text. -/
  | other
  deriving DecidableEq

/-- The error that a panic is reported as. -/
def PanicPayload.error : PanicPayload → ProbeFailure
  | text s => .panicked s
  | other => .panicked "unknown panic payload"

/-- What a probe knows about the check that it runs for. -/
structure Context where
  name : String
  failureStatus : Status
  /-- Whether the check was cancelled before the call. -/
  cancelled : Bool := false

/-- An outcome with the failure status of the check. -/
def Context.failure (ctx : Context) (description : String) : Outcome where
  status := ctx.failureStatus
  description := some description

/-- How a call ends. -/
inductive Ending where
  | outcome (o : Outcome)
  | error (e : ProbeFailure)
  | panic (payload : PanicPayload)

/-- A call of a probe. -/
structure Call where
  /-- The milliseconds after which it ends, none when it never does. -/
  endsAfter : Option Nat
  ending : Ending

/-- The call ends at once with an outcome. -/
def Call.now (o : Outcome) : Call := ⟨some 0, .outcome o⟩

/-- An instance of a probe: what its calls do, from the first on. -/
structure Probe where
  call : (number : Nat) → Context → Call
  /-- Whether the task that lets go of the instance panics. -/
  panicsOnRelease : Bool := false

/-- Why no probe could be made. -/
inductive CreationFault where
  | error (e : ProbeFailure)
  | panic (payload : PanicPayload)

/-- The error that a fault is reported as. -/
def CreationFault.toError : CreationFault → ProbeFailure
  | error e => e
  | panic payload => payload.error

/-- Where the probe of a check comes from. -/
inductive ProbeSource where
  /-- One instance that all evaluations share. -/
  | shared (probe : Probe)
  /-- A new instance for each evaluation. -/
  | fresh (make : Services → Except CreationFault Probe)

namespace ProbeSource

/-- Whether all evaluations share one instance. -/
def isShared : ProbeSource → Bool
  | shared _ => true
  | fresh _ => false

/-- The instance for an evaluation. -/
def probe (services : Services) : ProbeSource → Except CreationFault Probe
  | shared probe => .ok probe
  | fresh make => make services

end ProbeSource

end HealthWatch
