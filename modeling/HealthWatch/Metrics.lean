import HealthWatch.Binary64.Shortest
import HealthWatch.Outcome
/-!
# Metrics of the last report

Gauges hold the status and the duration of each check and of the whole, and a counter the number of
reports. Recording a report replaces what the gauges show: a check that the report does not mention
loses its series. The exposition is the text of all families, in the order of their names.
-/

namespace HealthWatch

/-- A duration in seconds: the whole seconds plus the nanoseconds beyond them, each rounded. -/
def Duration.seconds (d : Duration) : Binary64 :=
  (do
    let whole ← Binary64.ofNat? d.secs
    let nanos ← Binary64.ofNat? d.subsecNanos
    let part ← nanos.over? (← Binary64.ofNat? 1_000_000_000)
    whole.plus? part).getD default

/-- What is exported about the reports so far. -/
structure Metrics where
  /-- The status gauge of each check. -/
  statuses : NameMap Nat
  /-- The duration gauge of each check, in seconds. -/
  durations : NameMap Binary64
  /-- The checks that have series. -/
  known : NameSet
  overall : Nat
  total : Binary64
  evaluations : Nat

namespace Metrics

/-- No report yet. -/
def fresh : Metrics := ⟨.empty, .empty, .empty, 0, default, 0⟩

instance : Inhabited Metrics := ⟨fresh⟩

/-- The metrics without the series of one check. -/
def drop (m : Metrics) (name : String) : Metrics :=
  { m with statuses := m.statuses.erase name, durations := m.durations.erase name }

/-- The metrics with the series of one check set. -/
def set (m : Metrics) (name : String) (o : Outcome) : Metrics :=
  { m with
    statuses := m.statuses.insert name o.status.gauge
    durations := m.durations.insert name o.duration.seconds
    known := m.known.insert name }

/-- The metrics after one more report. -/
def record (m : Metrics) (r : Report) : Metrics :=
  let stale := m.known.toList.filter fun name => !r.entries.contains name
  -- Only the names of this report are known afterwards.
  let kept := { stale.foldl drop m with known := .empty }
  let shown := r.entries.toList.foldl (fun m p => m.set p.1 p.2) kept
  { shown with
    overall := r.overall.gauge
    total := r.total.seconds
    evaluations := m.evaluations + 1 }

/-! ## The exposition -/

/-- How a character is written within the value of a label. -/
def escapeLabel (c : Char) : List Char :=
  if c = '\\' then ['\\', '\\']
  else if c = '\n' then ['\\', 'n']
  else if c = '"' then ['\\', '"']
  else [c]

def heading (name help kind : String) : List Char :=
  ("# HELP " ++ name ++ " " ++ help ++ "\n# TYPE " ++ name ++ " " ++ kind ++ "\n").toList

/-- The line of a series without labels. -/
def plainLine (name : String) (value : List Char) : List Char :=
  name.toList ++ ' ' :: (value ++ ['\n'])

def checkLine (name check : String) (value : List Char) : List Char :=
  (name ++ "\x7bhealthcheck=\"").toList ++ check.toList.flatMap escapeLabel ++
    "\"\x7d ".toList ++ value ++ ['\n']

/-- A family with a series for each check; nothing is written when there is none. -/
def checkFamily (name help : String) (series : List (String × List Char)) : List Char :=
  if series = [] then []
  else heading name help "gauge" ++ series.flatMap fun p => checkLine name p.1 p.2

def plainFamily (name help kind : String) (value : List Char) : List Char :=
  heading name help kind ++ plainLine name value

def exposition (m : Metrics) : List Char :=
  checkFamily "healthcheck" "Health check status (0=Unhealthy, 1=Degraded, 2=Healthy)"
    (m.statuses.toList.map fun p => (p.1, Numeral.decimal p.2)) ++
  checkFamily "healthcheck_duration_seconds" "Duration of the last health check run in seconds"
    (m.durations.toList.map fun p => (p.1, p.2.plainText)) ++
  plainFamily "healthcheck_evaluations_total" "Number of health reports recorded" "counter"
    (Numeral.decimal m.evaluations) ++
  plainFamily "healthcheck_overall" "Overall health status (0=Unhealthy, 1=Degraded, 2=Healthy)"
    "gauge" (Numeral.decimal m.overall) ++
  plainFamily "healthcheck_total_duration_seconds"
    "Wall-clock duration of the last evaluation in seconds" "gauge" m.total.plainText

end Metrics

end HealthWatch
