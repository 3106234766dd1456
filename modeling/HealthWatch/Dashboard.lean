import HealthWatch.Evaluation
import HealthWatch.Json.Text
import HealthWatch.Timespan
/-!
# The report that dashboards read

Each entry shows the outcome of a check, with the error in the place of a missing description. An
evaluation without a report becomes one unhealthy entry. The JSON text writes durations as
timespans.
-/

namespace HealthWatch

/-- What a dashboard shows of one check. -/
structure DashboardEntry where
  data : NameMap Datum
  description : Option String
  duration : Duration
  exception : Option String
  status : Status
  tags : NameSet

/-- What a dashboard shows of an evaluation. -/
structure Dashboard where
  status : Status
  total : Duration
  entries : NameMap DashboardEntry

namespace DashboardEntry

def ofOutcome (o : Outcome) : DashboardEntry where
  data := o.data
  description := o.description <|> o.error
  duration := o.duration
  exception := o.error
  status := o.status
  tags := o.tags

def json (e : DashboardEntry) : Json :=
  .object [
    ("data", .object (e.data.toList.map fun p => (p.1, p.2.json))),
    ("description", .ofString? e.description),
    ("duration", .string (String.ofList (Timespan.format e.duration))),
    ("exception", .ofString? e.exception),
    ("status", .string e.status.name),
    ("tags", .ofStrings e.tags.toList)]

end DashboardEntry

namespace Dashboard

def ofReport (r : Report) : Dashboard where
  status := r.overall
  total := r.total
  entries := r.entries.map fun _ => .ofOutcome

/-- The name of the only entry when there is no report. -/
def soleEntry : String := "endpoint"

/-- What a dashboard shows of an error that left no report. -/
def ofError (message : String) : Dashboard where
  status := .unhealthy
  total := .zero
  entries := .ofList [(soleEntry, {
    data := .empty
    description := some message
    duration := .zero
    exception := some message
    status := .unhealthy
    tags := .empty })]

/-- What a dashboard shows of an evaluation; one without a report shows why. -/
def ofVerdict : Verdict → Dashboard
  | .completed r => ofReport r
  | _ => ofError Evaluation.cancelledMessage

/-- The entries that are not healthy. -/
def failing (d : Dashboard) : NameMap DashboardEntry :=
  d.entries.filter fun _ e => !e.status.isHealthy

def json (d : Dashboard) : Json :=
  .object [
    ("status", .string d.status.name),
    ("totalDuration", .string (String.ofList (Timespan.format d.total))),
    ("entries", .object (d.entries.toList.map fun p => (p.1, p.2.json)))]

def text (d : Dashboard) : List Char := d.json.print

end Dashboard

end HealthWatch
