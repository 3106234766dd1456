import HealthWatch.Duration
import HealthWatch.Json
import HealthWatch.NameSet
import HealthWatch.Status
/-!
# Outcomes and reports

The outcome of one check, and the report that collects the outcomes of an evaluation under the
names of their checks. The status of a report is the worst of its entries.
-/

namespace HealthWatch

/-- What one run of a check found. -/
structure Outcome where
  status : Status
  description : Option String := none
  /-- What went wrong, set when the check could not judge. -/
  error : Option String := none
  data : NameMap Datum := .empty
  duration : Duration := .zero
  tags : NameSet := .empty

/-- The outcome with one more item of data. -/
def Outcome.withData (o : Outcome) (name : String) (value : Datum) : Outcome :=
  { o with data := o.data.insert name value }

/-- The outcomes of one evaluation by the names of their checks. -/
structure Report where
  entries : NameMap Outcome
  /-- How long the whole evaluation took. -/
  total : Duration
  /-- When it began, in milliseconds since 1970. -/
  checkedAt : Int

namespace Report

/-- The status of the whole: the worst of the entries, healthy when there is none. -/
def overall (r : Report) : Status := .worst (r.entries.values.map (·.status))

/-- The entries that are not healthy, in the order of their names. -/
def failing (r : Report) : NameMap Outcome := r.entries.filter fun _ o => !o.status.isHealthy

end Report

end HealthWatch
