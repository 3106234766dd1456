import HealthWatch.Json.Text
import HealthWatch.Notification
import HealthWatch.Outcome
import HealthWatch.Text.Replace
/-!
# The texts of notifications

A template holds bookmarks, which are replaced one kind after the other: the name of the service,
how many checks fail, and why. The values are escaped as the contents of JSON strings.
-/

namespace HealthWatch.Template

def livenessMark : List Char := "[[LIVENESS]]".toList

def failureMark : List Char := "[[FAILURE]]".toList

/-- The bookmark of the descriptions of the failing checks. -/
def descriptionsMark : List Char := "[[DESCRIPTIONS]]".toList

/-- How many checks fail. -/
def failureText (kind : Notice) (r : Report) : String :=
  match kind with
  | .down => "There are at least " ++ Numeral.text r.failing.size ++ " HealthChecks failing."
  | .restored => ""

/-- The descriptions of the failing checks, or their errors; a check with neither is passed over. -/
def descriptionsText (kind : Notice) (r : Report) : String :=
  match kind with
  | .down => " | ".intercalate (r.failing.values.filterMap fun o => o.description <|> o.error)
  | .restored => ""

/-- The template with its bookmarks filled in. -/
def render (template : List Char) (name : String) (kind : Notice) (r : Report) :
    List Char :=
  -- Each replacement goes through all that stands there by then, values included.
  let named := Text.replaceAll livenessMark (Json.escape name.toList) template
  let counted := Text.replaceAll failureMark (Json.escape (failureText kind r).toList) named
  Text.replaceAll descriptionsMark (Json.escape (descriptionsText kind r).toList) counted

end HealthWatch.Template
