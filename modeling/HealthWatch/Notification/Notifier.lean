import HealthWatch.Manifest
import HealthWatch.Notification.Template
import HealthWatch.PublishFailure
/-!
# Notifying webhooks

When a notification is due, every webhook gets one request, in the order of the configuration: its
payload for an outage, and its other payload when the service is restored. The requests are made one
after another. Whatever comes of one, the next is made as soon as it is over, and what is remembered
of the service has been settled before the first.
-/

namespace HealthWatch

/-- Notifies webhooks of the status of a service. -/
structure Notifier where
  /-- The name of the service. -/
  liveness : String
  webhooks : List Webhook
  minInterval : Duration

/-- What a notifier remembers. -/
structure NotifierState where
  book : LivenessBook := .empty
  /-- How many requests it has made. -/
  asked : Nat := 0

/-- A request to a webhook, and what came of it. -/
structure Posting where
  webhook : Webhook
  request : HttpRequest
  exchange : HttpExchange

namespace Posting

/-- Whether the webhook was notified, or why it was not. -/
def result (p : Posting) : Except PublishFailure Unit := p.exchange.reply.judge p.webhook.name

/-- The milliseconds until the request is over. -/
def wait (p : Posting) : Option Nat := p.exchange.finishedAfter fun code => !isSuccess code

end Posting

/-- What a report led to. -/
structure Informed where
  state : NotifierState
  /-- The notification that was due. -/
  kind : Option Notice
  postings : List Posting

namespace Notifier

/-- The template of a kind of notification. -/
def template (w : Webhook) : Notice → String
  | .down => w.payload
  | .restored => w.restorePayload

def request (name : String) (kind : Notice) (r : Report) (w : Webhook) : HttpRequest where
  method := "POST"
  url := w.url
  headers := [("content-type", "application/json")]
  body := Template.render (template w kind).toList name kind r

/-- The requests that are due for a notification. -/
def requests (n : Notifier) (name : String) (r : Report) : Option Notice → List HttpRequest
  | some kind => n.webhooks.map (request name kind r)
  | none => []

/-- What is remembered after a report about a service, the notification that is due, and its
requests. -/
def notify (n : Notifier) (book : LivenessBook) (now : Int) (name : String) (r : Report) :
    LivenessBook × Option Notice × List HttpRequest :=
  let observed := book.observe n.minInterval now name r.overall
  (observed.1, observed.2, n.requests name r observed.2)

/-- Notifies webhooks one after another, with requests numbered from `number`. Nothing comes after a
request that is never over. -/
def postAll (net : Network) (name : String) (kind : Notice) (r : Report) :
    (number : Nat) → List Webhook → List Posting
  | _, [] => []
  | number, w :: ws =>
    let asked := request name kind r w
    let posting : Posting := { webhook := w, request := asked, exchange := net.send number asked }
    match posting.wait with
    -- An accepted request and one that failed are followed by the next alike.
    | some _ => posting :: postAll net name kind r (number + 1) ws
    | none => [posting]

/-- What a report about a service leads to, at an instant in nanoseconds since 1970. -/
def inform (n : Notifier) (net : Network) (state : NotifierState) (instant : Int) (name : String)
    (r : Report) : Informed :=
  let observed := state.book.observeAt n.minInterval instant name r.overall
  -- The book is closed by now: nothing that comes of the requests is written into it.
  let postings := match observed.2 with
    | some kind => postAll net name kind r (state.asked + 1) n.webhooks
    | none => []
  { state := { book := observed.1, asked := state.asked + postings.length }
    kind := observed.2
    postings }

end Notifier

end HealthWatch
