import HealthWatch.Metrics
import HealthWatch.PublishFailure
import HealthWatch.Url.Reader
/-!
# Pushing metrics to a gateway

Each report is recorded in metrics of the publisher's own, and their exposition is sent to a URL
below the endpoint that names the job and, if there is one, the instance.
-/

namespace HealthWatch

/-- Pushes the metrics of reports. -/
structure Pushgateway where
  url : Url
  metrics : Metrics := .fresh

namespace Pushgateway

def contentType : String := "text/plain; version=0.0.4; charset=utf-8"

/-- The URL for a job and an instance below an endpoint. -/
def targetUrl (endpoint : Url) (job : List Char) (inst : Option (List Char)) : Url :=
  let u := endpoint.popIfEmpty.extend ["metrics".toList, "job".toList, job]
  match inst with
  | some i => if i = [] then u else u.extend ["instance".toList, i]
  | none => u

def make (endpoint job : String) (inst : Option String) : Except PublishFailure Pushgateway :=
  match Url.read? endpoint.toList with
  | some u =>
    if job = "" then .error (.invalidEndpoint endpoint)
    else .ok { url := targetUrl u job.toList (inst.map String.toList) }
  | none => .error (.invalidEndpoint endpoint)

/-- The request that pushes the metrics as they are. -/
def request (p : Pushgateway) : HttpRequest where
  method := "POST"
  url := String.ofList p.url.text
  headers := [("content-type", contentType)]
  body := p.metrics.exposition

/-- The publisher after a report, and the request that it makes. -/
def push (p : Pushgateway) (r : Report) : Pushgateway × HttpRequest :=
  let p := { p with metrics := p.metrics.record r }
  (p, p.request)

end Pushgateway

end HealthWatch
