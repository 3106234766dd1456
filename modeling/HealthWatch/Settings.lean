import HealthWatch.ConfigFault
import HealthWatch.Duration.Notation
/-!
# Settings of the service

The settings come from variables of the environment. A variable that is unset or blank takes its
default; the deadline of evaluations has to be longer than the default timeout of checks, so that a
check that hangs fails only its own entry. Variables are judged in a fixed order and the first fault
is reported.
-/

namespace HealthWatch

/-- The variables of the environment; none is unset. -/
abbrev Environment := String → Option String

/-- The settings of the service. -/
structure Settings where
  /-- The name that notifications give to the service. -/
  name : String
  port : Nat
  /-- The path of the manifest. -/
  manifestPath : String
  /-- The timeout of checks without one of their own. -/
  defaultTimeout : Duration
  /-- The deadline of an evaluation. -/
  evaluationTimeout : Duration
  publishDelay : Duration
  publishPeriod : Duration
  pushgatewayUrl : Option String
  pushgatewayJob : String
  pushgatewayInstance : Option String
  /-- How long a reminder of an outage is held back. -/
  minNotificationInterval : Duration

namespace Settings

/-- The variables that can be faulty, in the order in which they are judged. -/
inductive Variable where
  | port
  | defaultTimeout
  | evaluationTimeout
  | publishDelay
  | publishPeriod
  | minNotificationInterval
  deriving DecidableEq, Repr

def Variable.key : Variable → String
  | port => "CHECKUP_PORT"
  | defaultTimeout => "CHECKUP_DEFAULT_TIMEOUT"
  | evaluationTimeout => "CHECKUP_EVALUATION_TIMEOUT"
  | publishDelay => "CHECKUP_PUBLISH_DELAY"
  | publishPeriod => "CHECKUP_PUBLISH_PERIOD"
  | minNotificationInterval => "CHECKUP_MIN_NOTIFICATION_INTERVAL"

def nameKey : String := "CHECKUP_NAME"

def manifestKey : String := "CHECKUP_CHECKS_FILE"

def gatewayUrlKey : String := "CHECKUP_PUSHGATEWAY_URL"

def gatewayJobKey : String := "CHECKUP_PUSHGATEWAY_JOB"

def gatewayInstanceKey : String := "CHECKUP_PUSHGATEWAY_INSTANCE"

def judged : List Variable :=
  [.port, .defaultTimeout, .evaluationTimeout, .publishDelay, .publishPeriod,
    .minNotificationInterval]

def keys : List String :=
  [nameKey, manifestKey, gatewayUrlKey, gatewayJobKey, gatewayInstanceKey] ++
    judged.map Variable.key

/-- The path of the manifest when none is given. -/
def defaultManifest : String := "checkup.toml"

/-- The name of the service and of its job when none is given. -/
def defaultName : String := "checkup"

/-- The port when none is given. -/
def defaultPort : Nat := 8080

/-- How much longer an evaluation may take than a check, when its deadline is not given. -/
def extraTime : Duration := .ofSecs 5

/-- The value of a variable that is set and not blank. -/
def value? (env : Environment) (key : String) : Option String :=
  (env key).filter fun v => !Text.allBlank v.toList

/-- The duration that a variable sets, or the default. -/
def readDuration (env : Environment) (v : Variable) (default : Duration) :
    Except ConfigFault Duration :=
  match value? env v.key with
  | none => .ok default
  | some value =>
    match Duration.read? value.toList with
    | some d => .ok d
    | none => .error (.invalid v.key value "expected a non-zero duration like 30s, 5m or 2h")

/-- The port that a variable sets, or the default. -/
def readPort (env : Environment) : Except ConfigFault Nat :=
  match value? env Variable.port.key with
  | none => .ok defaultPort
  | some value =>
    match Numeral.read Numeral.greatest16 (Text.trim value.toList) with
    | .ok port => .ok port
    | .error fault => .error (.invalid Variable.port.key value fault.message)

/-- A duration in milliseconds, as it is reported. -/
def inMillis (d : Duration) : String := Numeral.text d.millis ++ "ms"

/-- The deadline of evaluations, which has to be longer than the default timeout. -/
def readEvaluationTimeout (env : Environment) (defaultTimeout : Duration) :
    Except ConfigFault Duration := do
  let d ← readDuration env .evaluationTimeout (defaultTimeout.add extraTime)
  if defaultTimeout < d then .ok d
  else .error (.invalid Variable.evaluationTimeout.key (inMillis d)
    ("must be longer than " ++ Variable.defaultTimeout.key ++
      " (" ++ inMillis defaultTimeout ++ ")"))

def read (env : Environment) : Except ConfigFault Settings := do
  let port ← readPort env
  let defaultTimeout ← readDuration env .defaultTimeout (.ofSecs 30)
  let evaluationTimeout ← readEvaluationTimeout env defaultTimeout
  let publishDelay ← readDuration env .publishDelay (.ofSecs 5)
  let publishPeriod ← readDuration env .publishPeriod (.ofSecs 30)
  let minNotificationInterval ← readDuration env .minNotificationInterval (.ofSecs 600)
  return {
    name := (value? env nameKey).getD defaultName
    port
    manifestPath := (value? env manifestKey).getD defaultManifest
    defaultTimeout
    evaluationTimeout
    publishDelay
    publishPeriod
    pushgatewayUrl := value? env gatewayUrlKey
    pushgatewayJob := (value? env gatewayJobKey).getD defaultName
    pushgatewayInstance := value? env gatewayInstanceKey
    minNotificationInterval }

end Settings

end HealthWatch
