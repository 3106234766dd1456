import HealthWatch.Manifest.Reader
import HealthWatch.Service
import HealthWatch.Settings
/-!
# Starting the service

A start reads the settings, then the manifest, builds the registry and then the publishers; the
first fault ends it. What is done is logged on the way. A service that has started runs until a
signal asks it to stop.
-/

namespace HealthWatch

/-! ## The log -/

/-- The signals that stop the service. -/
inductive StopSignal where
  | terminate
  | interrupt
  deriving DecidableEq, Repr

def StopSignal.name : StopSignal → String
  | terminate => "SIGTERM"
  | interrupt => "SIGINT"

/-- What is logged. -/
inductive LogEntry where
  | starting
  | manifestMissing (path : String)
  | manifestLoaded (path : String) (checks webhooks : Nat)
  | metricsReady
  | gatewayConfigured (url : Url)
  | gatewayDisabled
  | webhooksConfigured (webhooks : Nat)
  | ready (port : Nat)
  | shuttingDown (signal : StopSignal)
  | stopping
  | stopped

/-- The wording of an entry: a message and its fields. -/
def LogEntry.message : LogEntry → String
  | starting => "Starting checkup health service"
  | manifestMissing path => "Checks file not found - starting with no checks path=" ++ path
  | manifestLoaded path checks webhooks =>
    "Checks file loaded path=" ++ path ++ " checks=" ++ Numeral.text checks ++
      " webhooks=" ++ Numeral.text webhooks
  | metricsReady => "Prometheus metrics registry initialized"
  | gatewayConfigured url => "Pushgateway publisher configured url=" ++ String.ofList url.text
  | gatewayDisabled => "Pushgateway URL not configured - push disabled"
  | webhooksConfigured webhooks =>
    "Webhook notifications configured webhooks=" ++ Numeral.text webhooks
  | ready port => "checkup ready port=" ++ Numeral.text port
  | shuttingDown signal =>
    "Initiating graceful shutdown signal=" ++ Text.quoted signal.name
  | stopping => "Stopping components..."
  | stopped => "checkup shut down gracefully"

/-- Why a start fails. -/
inductive StartupFault where
  | config (e : ConfigFault)
  | publisher (e : PublishFailure)
  deriving DecidableEq, Repr

def StartupFault.message : StartupFault → String
  | config e => e.message
  | publisher e => e.message

/-- A start in progress: it logs, and it may fail. -/
abbrev Startup := ExceptT StartupFault (StateM (List LogEntry))

namespace Startup

def log (entry : LogEntry) : Startup Unit := modify (· ++ [entry])

/-- Goes on with a result, or fails with its fault. -/
def orFail {ε α : Type} (fault : ε → StartupFault) : Except ε α → Startup α
  | .ok a => pure a
  | .error e => throw (fault e)

end Startup

/-! ## From settings to a service -/

namespace Settings

def evaluator (s : Settings) (g : Registry) : Evaluator where
  registry := g
  defaultTimeout := some s.defaultTimeout

/-- When reports are published; they cover every check. -/
def schedule (s : Settings) : Schedule where
  delay := s.publishDelay
  period := s.publishPeriod
  timeout := s.evaluationTimeout

/-- The gateway that the settings name, if they name one. -/
def gateway (s : Settings) : Except PublishFailure (Option Pushgateway) :=
  match s.pushgatewayUrl with
  | some url => do return some (← Pushgateway.make url s.pushgatewayJob s.pushgatewayInstance)
  | none => .ok none

/-- The notifier of webhooks, if there are any. -/
def notifier (s : Settings) (webhooks : List Webhook) : Option Notifier :=
  if webhooks = [] then none
  else some { liveness := s.name, webhooks, minInterval := s.minNotificationInterval }

def service (s : Settings) (g : Registry) (publishers : List Publisher) : Service where
  broadcaster := { evaluator := s.evaluator g, schedule := s.schedule, publishers }
  requestTimeout := s.evaluationTimeout

end Settings

namespace Startup

/-- The manifest at the path that the settings name. -/
def manifest (s : Settings) (source : Manifest.Source) : Startup Manifest := do
  let m ← orFail .config (Manifest.loadOrEmpty s.manifestPath source)
  log (match source with
    | .missing => .manifestMissing s.manifestPath
    | _ => .manifestLoaded s.manifestPath m.checks.length m.webhooks.length)
  return m

/-- The publishers: the metrics, and a gateway and webhooks where they are configured. -/
def publishers (s : Settings) (webhooks : List Webhook) (net : Network) :
    Startup (List Publisher) := do
  let gateway ← orFail .publisher s.gateway
  log (match gateway with
    | some p => .gatewayConfigured p.url
    | none => .gatewayDisabled)
  let notifier := s.notifier webhooks
  match notifier with
  | some n => log (.webhooksConfigured n.webhooks.length)
  | none => pure ()
  return .prometheus :: gateway.toList.map (.pushgateway · net) ++
    notifier.toList.map (.webhook · net)

/-- The start of a service, with what stands at each path of the file system. -/
def boot (env : Environment) (sources : String → Manifest.Source) (net : Network) :
    Startup (Settings × Service) := do
  log .starting
  let settings ← orFail .config (Settings.read env)
  let m ← manifest settings (sources settings.manifestPath)
  let registry ← orFail .config (m.registry net)
  log .metricsReady
  let publishers ← publishers settings m.webhooks net
  log (.ready settings.port)
  return (settings, settings.service registry publishers)

/-- The result of a start, and what it logged. -/
def result {α : Type} (s : Startup α) : Except StartupFault α × List LogEntry :=
  StateT.run (ExceptT.run s) []

/-- What is logged when a signal stops the service. -/
def shutdownLog (signal : StopSignal) : List LogEntry := [.shuttingDown signal, .stopping, .stopped]

end Startup

/-- What the log of a whole run says, and the fault that ended it before the service was up. -/
structure Run where
  log : List LogEntry
  fault : Option StartupFault

namespace Run

/-- The run of a service that is stopped by a signal once it is ready. -/
def ofSignal (env : Environment) (sources : String → Manifest.Source) (net : Network)
    (signal : StopSignal) : Run :=
  match (Startup.boot env sources net).result with
  | (.ok _, log) => ⟨log ++ Startup.shutdownLog signal, none⟩
  | (.error fault, log) => ⟨log, some fault⟩

/-- The exit code of a run. -/
def exitCode (r : Run) : Nat := if r.fault.isSome then 1 else 0

/-- The line that ends a run on its fault. -/
def faultLine (f : StartupFault) : String := "Error: " ++ f.message

end Run

end HealthWatch
