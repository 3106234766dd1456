import HealthWatch.Notification.Notifier
import HealthWatch.Pushgateway
/-!
# Publishers

A publisher is a destination of reports. What it does with a report is a function of the reports
that it has received before; it takes some time and may fail, and whether it fails changes nothing
for any later report. The metrics, a gateway and webhooks are publishers. The metrics that the
service shows change by what publishers have them record, and by nothing else.
-/

namespace HealthWatch

/-- A report with the time at which it was delivered, in milliseconds since 1970. -/
structure Delivery where
  time : Int
  report : Report

/-- What a publisher does with a report. -/
structure Publication where
  /-- The milliseconds that it takes, none when it never ends. -/
  wait : Option Nat := some 0
  /-- What it has the metrics of the service record. -/
  recorded : Option Report := none
  requests : List HttpRequest := []
  result : Except PublishFailure Unit := .ok ()

/-- A destination of reports. -/
structure Publisher where
  name : String
  publish : (earlier : List Delivery) → Delivery → Publication

/-- The metrics after reports, recorded in order. -/
def Metrics.ofReports (reports : List Report) : Metrics := reports.foldl record fresh

namespace Publisher

/-- The metrics of the service, which record every report. -/
def prometheus : Publisher where
  name := "prometheus"
  publish _ d := { recorded := some d.report }

/-- Pushes reports to a gateway. -/
def pushgateway (p : Pushgateway) (net : Network) : Publisher where
  name := "pushgateway"
  publish earlier d :=
    let metrics := Metrics.ofReports (earlier.map (·.report))
    let request := (Pushgateway.push { p with metrics } d.report).2
    let exchange := net.send (earlier.length + 1) request
    { wait := exchange.finishedAfter fun code => !isSuccess code
      requests := [request]
      result := exchange.reply.judge (String.ofList p.url.text) }

/-- What a notifier remembers after reports about its service. -/
def stateAfter (n : Notifier) (net : Network) (earlier : List Delivery) : NotifierState :=
  earlier.foldl (fun state d =>
    (n.inform net state (d.time * 1_000_000) n.liveness d.report).state) {}

/-- Notifies webhooks. That a request fails is no failure of the publisher. -/
def webhook (n : Notifier) (net : Network) : Publisher where
  name := "webhook"
  publish earlier d :=
    let informed :=
      n.inform net (stateAfter n net earlier) (d.time * 1_000_000) n.liveness d.report
    { wait := (informed.postings.map (·.wait)).foldr plusTime (some 0)
      requests := informed.postings.map (·.request) }

end Publisher

end HealthWatch
