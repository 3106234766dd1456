import HealthWatch.Dashboard
import HealthWatch.Broadcaster
import HealthWatch.RequestTarget
/-!
# The service

The service answers requests on four paths and publishes reports. A request for `/health` evaluates
the checks that it names; it never reaches the metrics (`metrics_respond`), which show what the
publishers have them record. The calls of probes count across requests and publications.
-/

namespace HealthWatch

/-- What answers a request. -/
structure Response where
  code : Nat
  contentType : Option String := none
  body : List Char := []

/-- What a service is made of. -/
structure Service where
  /-- What it publishes; its evaluator runs the checks that requests ask for too. -/
  broadcaster : Broadcaster
  codes : ResponseCodes := {}
  /-- The deadline of the evaluations that requests ask for. -/
  requestTimeout : Duration := .ofSecs 30

/-- What a service remembers. -/
structure ServiceState where
  /-- Whether requests are welcome: the service has started and is not about to stop. -/
  ready : Bool := false
  /-- What requests for the metrics are shown. -/
  metrics : Metrics := .fresh
  counts : CallCounts := .empty
  /-- The reports that the publishers have received. -/
  delivered : List Delivery := []

/-! ## Routes -/

/-- What a path leads to. -/
inductive Route where
  /-- Whether the service is alive. -/
  | liveness
  /-- Whether requests are welcome. -/
  | readiness
  /-- An evaluation. -/
  | health
  /-- The metrics of the published reports. -/
  | metrics
  deriving DecidableEq, Repr

namespace Route

/-- The path of a route. -/
def path : Route → String
  | liveness => "/healthz"
  | readiness => "/readyz"
  | health => "/health"
  | metrics => "/metrics"

def all : List Route := [liveness, readiness, health, metrics]

/-- The route of a path, which has to be written exactly so. -/
def ofPath? (path : List Char) : Option Route := all.find? fun r => r.path.toList = path

theorem ofPath?_path (r : Route) : ofPath? r.path.toList = some r := by
  cases r <;> decide

end Route

/-- The checks that the pairs of a query ask for: by name, by tag, or all of them. -/
def Selector.ofPairs (pairs : List (String × String)) : Selector :=
  .ofFilters (Form.values "name" pairs) (Form.values "tag" pairs)

/-- The code that is sent where a code is configured; one that no response can carry becomes 503. -/
def sendableCode (code : Nat) : Nat := if 100 ≤ code ∧ code ≤ 999 then code else 503

namespace ResponseCodes

/-- The code that reports an evaluation; one without a report counts as unhealthy. -/
def ofVerdict (codes : ResponseCodes) : Verdict → Nat
  | .completed r => codes.code r.overall
  | _ => codes.unhealthy

end ResponseCodes

namespace Service

/-- The type of the body that reports an evaluation. -/
def jsonType : String := "application/json"

/-- The evaluation that the pairs of a query ask for, and the counts of calls after it. -/
def evaluation (s : Service) (state : ServiceState) (now : Int) (pairs : List (String × String)) :
    Evaluation × CallCounts :=
  s.broadcaster.evaluator.evaluate state.counts now (.ofPairs pairs)
    { deadline := some s.requestTimeout }

def healthResponse (codes : ResponseCodes) (v : Verdict) : Response where
  code := sendableCode (codes.ofVerdict v)
  contentType := some jsonType
  body := (Dashboard.ofVerdict v).text

def health (s : Service) (state : ServiceState) (now : Int) (pairs : List (String × String)) :
    ServiceState × Response :=
  let e := s.evaluation state now pairs
  ({ state with counts := e.2 }, healthResponse s.codes e.1.verdict)

/-- The response to a request that reads a route. -/
def get (s : Service) (state : ServiceState) (now : Int) (pairs : List (String × String)) :
    Route → ServiceState × Response
  | .liveness => (state, { code := 200 })
  | .readiness => (state, { code := if state.ready then 200 else 503 })
  | .health => s.health state now pairs
  | .metrics => (state, {
      code := 200
      contentType := some Pushgateway.contentType
      body := state.metrics.exposition })

/-- The response to a request. A request for the head of a response gets it without the body. -/
def respond (s : Service) (state : ServiceState) (now : Int) (q : HttpRequest) :
    ServiceState × Response :=
  let target := RequestTarget.read q.url.toList
  match Route.ofPath? target.path with
  | none => (state, { code := 404 })
  | some route =>
    if q.method = "GET" then s.get state now target.pairs route
    else if q.method = "HEAD" then
      let answer := s.get state now target.pairs route
      (answer.1, { answer.2 with body := [] })
    else (state, { code := 405 })

/-- One publication: the publishers get the report, unless the evaluation was cancelled, and the
metrics record what publishers have them record. -/
def publish (s : Service) (state : ServiceState) (now : Int) : ServiceState × Round :=
  let once := s.broadcaster.round now state.counts state.delivered 0 0
  ({ state with
      metrics := once.round.recorded.foldl .record state.metrics
      counts := once.counts
      delivered := state.delivered ++ once.delivery.toList },
    once.round)

/-! ## Events -/

/-- What happens to a service. -/
inductive Event where
  | request (q : HttpRequest)
  | setReady (ready : Bool)
  | publish

/-- What comes of an event. -/
inductive Answer where
  | response (r : Response)
  | readiness (ready : Bool)
  | round (r : Round)

/-- The service after an event, and what came of it. -/
def handle (s : Service) (state : ServiceState) (now : Int) : Event → ServiceState × Answer
  | .request q =>
    let answer := s.respond state now q
    (answer.1, .response answer.2)
  | .setReady ready => ({ state with ready }, .readiness ready)
  | .publish =>
    let answer := s.publish state now
    (answer.1, .round answer.2)

theorem state_health (s : Service) (state : ServiceState) (now : Int)
    (pairs : List (String × String)) :
    (s.health state now pairs).1 = { state with counts := (s.evaluation state now pairs).2 } :=
  rfl

theorem metrics_withCounts (state : ServiceState) (counts : CallCounts) :
    { state with counts := counts : ServiceState }.metrics = state.metrics := rfl

theorem metrics_get (s : Service) (state : ServiceState) (now : Int)
    (pairs : List (String × String)) (r : Route) :
    (s.get state now pairs r).1.metrics = state.metrics := by
  cases r with
  | health =>
    show (s.health state now pairs).1.metrics = _
    rw [state_health, metrics_withCounts]
  | _ => rfl

/-- Requests leave the metrics alone. -/
theorem metrics_respond (s : Service) (state : ServiceState) (now : Int) (q : HttpRequest) :
    (s.respond state now q).1.metrics = state.metrics := by
  simp only [respond]
  split
  · rfl
  · split
    · exact metrics_get ..
    · split
      · exact metrics_get ..
      · rfl

end Service

end HealthWatch
