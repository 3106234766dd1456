import HealthWatch.Proofs.Rounds
import HealthWatch.Startup
import Mathlib.Data.List.Forall2
/-!
# What the metrics show

`publish_cases` sums up a publication, and `respond_eq` a request: all that a request leaves behind is in the
counts of calls. The metrics of a service record what its publishers have them record (`recordings`), which is
each report once where they are registered once, as they are in a service that has started
(`registersMetrics_boot`). `Told` is then the invariant of the service: its metrics have recorded the reports
that were published, and nothing else. A gateway among the publishers records them in metrics of its own, and
pushes what the metrics of the service show.
-/

namespace HealthWatch

/-- A request reads a route. -/
structure HttpRequest.Reads (q : HttpRequest) (route : Route) : Prop where
  method : q.method = "GET"
  path : Route.ofPath? (RequestTarget.read q.url.toList).path = some route

/-- The requests that push reports, one after another. -/
def Pushgateway.pushes : Pushgateway → List Report → List HttpRequest
  | _, [] => []
  | p, r :: reports => (p.push r).2 :: (p.push r).1.pushes reports

theorem Metrics.ofReports_concat (reports : List Report) (r : Report) :
    ofReports (reports ++ [r]) = (ofReports reports).record r := by
  rw [ofReports, List.foldl_append]
  rfl

/-- A round delivers the report of its evaluation, if there is one, to every publisher. -/
theorem Broadcaster.round_cases (b : Broadcaster) (now : Int) (counts : CallCounts)
    (earlier : List Delivery) (due startedAt : Nat) :
    ((b.round now counts earlier due startedAt).round.evaluation.report? = none ∧
      (b.round now counts earlier due startedAt).round.events = [] ∧
      (b.round now counts earlier due startedAt).delivery = none) ∨
    ∃ doneAt d, (b.round now counts earlier due startedAt).round.evaluation.report? = some d.report ∧
      (b.round now counts earlier due startedAt).round.events = b.deliver earlier doneAt d ∧
      (b.round now counts earlier due startedAt).delivery = some d := by
  obtain ⟨n, -, hend⟩ := b.evaluator.endsAt_le_deadline counts (now + startedAt)
    b.schedule.selector b.schedule.timeout
  unfold round
  simp only [hend, Option.map_some]
  cases hr : (b.evaluator.evaluate counts (now + startedAt) b.schedule.selector
      { deadline := some b.schedule.timeout }).1.report? with
  | none => exact .inl ⟨rfl, rfl, rfl⟩
  | some report => exact .inr ⟨_, _, rfl, rfl, rfl⟩

/-- What the publishers have the metrics record of a delivery. -/
def Broadcaster.recordings (b : Broadcaster) (earlier : List Delivery) (d : Delivery) : List Report :=
  b.publishers.filterMap fun p => (p.publish earlier d).recorded

theorem Broadcaster.recorded_deliver (b : Broadcaster) (earlier : List Delivery) (doneAt : Nat)
    (d : Delivery) :
    (b.deliver earlier doneAt d).filterMap (·.publication.recorded) = b.recordings earlier d :=
  List.filterMap_map ..

/-- A publisher that has the metrics of the service record nothing. -/
def Publisher.RecordsNothing (p : Publisher) : Prop :=
  ∀ earlier d, (p.publish earlier d).recorded = none

/-! ## Starting -/

namespace Startup

/-- A start that goes on after a step has got something from it. -/
theorem bind_ok {α β : Type} {x : Startup α} {f : α → Startup β} {log log' : List LogEntry} {b : β}
    (h : StateT.run (ExceptT.run (x >>= f)) log = (.ok b, log')) : ∃ a between,
      StateT.run (ExceptT.run x) log = (.ok a, between) ∧
      StateT.run (ExceptT.run (f a)) between = (.ok b, log') := by
  rw [ExceptT.run_bind, StateT.run_bind] at h
  cases hx : StateT.run (ExceptT.run x) log with
  | mk r between =>
    rw [hx] at h
    cases r with
    | error e => cases h
    | ok a => exact ⟨a, between, rfl, h⟩

/-- The publishers of a service that has started are the metrics, and then a gateway and webhooks where they
are configured. -/
theorem publishers_cases {st : Settings} {webhooks : List Webhook} {net : Network} {log log' : List LogEntry}
    {ps : List Publisher}
    (h : StateT.run (ExceptT.run (publishers st webhooks net)) log = (.ok ps, log')) :
    ∃ (gateways : List Pushgateway) (notifiers : List Notifier), ps =
      .prometheus :: (gateways.map (.pushgateway · net) ++ notifiers.map (.webhook · net)) := by
  obtain ⟨gateway, _, -, h⟩ := bind_ok h
  obtain ⟨_, _, -, h⟩ := bind_ok h
  refine ⟨gateway.toList, (st.notifier webhooks).toList, ?_⟩
  dsimp only at h
  split at h
  · obtain ⟨_, _, -, h⟩ := bind_ok h
    cases h
    rfl
  · cases h
    rfl

end Startup

/-! ## Events -/

namespace Service

/-- The metrics of a service are one of its publishers, and no other publisher has them record anything. -/
def RegistersMetrics (s : Service) : Prop :=
  ∃ before after, s.broadcaster.publishers = before ++ .prometheus :: after ∧
    ∀ p ∈ before ++ after, p.RecordsNothing

/-- The report that was published, if any was. -/
def Answer.published? : Answer → Option Report
  | round r => r.evaluation.report?
  | _ => none

/-- What the publisher of an index sent. -/
def Answer.sentBy (j : Nat) : Answer → List HttpRequest
  | round r => (r.events[j]?).toList.flatMap (·.publication.requests)
  | _ => []

/-- What came of an event, and what the service remembers after it. -/
structure Moment where
  answer : Answer
  state : ServiceState

/-- What an event comes to, at its time. -/
def moment (s : Service) (state : ServiceState) (event : Int × Event) : Moment :=
  let next := s.handle state event.1 event.2
  ⟨next.2, next.1⟩

/-- What events come to, one after another. -/
def moments (s : Service) (state : ServiceState) : List (Int × Event) → List Moment
  | [] => []
  | event :: events => s.moment state event :: s.moments (s.moment state event).state events

/-- What a service remembers after events. -/
def after (s : Service) (state : ServiceState) (events : List (Int × Event)) : ServiceState :=
  events.foldl (fun state event => (s.moment state event).state) state

/-- The reports that were published, in order. -/
def published (moments : List Moment) : List Report := moments.filterMap (·.answer.published?)

/-- What the publisher of an index has sent, in order. -/
def sentBy (j : Nat) (moments : List Moment) : List HttpRequest :=
  moments.flatMap (·.answer.sentBy j)

variable {s : Service} {state : ServiceState} {now : Int} {reports : List Report} {j : Nat}
  {p : Pushgateway} {net : Network}

/-! ## Where the metrics are registered -/

/-- Metrics that are registered once record each delivery once. -/
theorem RegistersMetrics.recordings_eq (hs : s.RegistersMetrics) (earlier : List Delivery)
    (d : Delivery) : s.broadcaster.recordings earlier d = [d.report] := by
  obtain ⟨before, after, hpublishers, hothers⟩ := hs
  have hnone : ∀ ps ⊆ before ++ after,
      (ps.filterMap fun p => (p.publish earlier d).recorded) = [] := fun ps hps =>
    List.filterMap_eq_nil_iff.2 fun p hp => hothers p (hps hp) earlier d
  rw [Broadcaster.recordings, hpublishers, List.filterMap_append, List.filterMap_cons,
    hnone before (List.subset_append_left ..), hnone after (List.subset_append_right ..)]
  rfl

/-- A service that has started has the metrics among its publishers, once. -/
theorem registersMetrics_boot {env : Environment} {sources : String → Manifest.Source} {st : Settings}
    (h : (Startup.boot env sources net).result.1 = .ok (st, s)) : s.RegistersMetrics := by
  obtain ⟨log, h⟩ : ∃ log, StateT.run (ExceptT.run (Startup.boot env sources net)) [] =
      (.ok (st, s), log) := ⟨_, Prod.ext h rfl⟩
  obtain ⟨_, _, -, h⟩ := Startup.bind_ok h
  obtain ⟨settings, _, -, h⟩ := Startup.bind_ok h
  obtain ⟨m, _, -, h⟩ := Startup.bind_ok h
  obtain ⟨g, _, -, h⟩ := Startup.bind_ok h
  obtain ⟨_, _, -, h⟩ := Startup.bind_ok h
  obtain ⟨ps, _, hps, h⟩ := Startup.bind_ok h
  obtain ⟨_, _, -, h⟩ := Startup.bind_ok h
  cases h
  obtain ⟨gateways, notifiers, rfl⟩ := Startup.publishers_cases hps
  refine ⟨[], _, rfl, fun p hp => ?_⟩
  rw [List.nil_append] at hp
  rcases List.mem_append.1 hp with hp | hp
  · obtain ⟨_, -, rfl⟩ := List.mem_map.1 hp
    exact fun _ _ => rfl
  · obtain ⟨_, -, rfl⟩ := List.mem_map.1 hp
    exact fun _ _ => rfl

/-! ## One event -/

/-- A request leaves nothing behind but the counts of calls. -/
theorem respond_eq (s : Service) (state : ServiceState) (now : Int) (q : HttpRequest) :
    ∃ counts, (s.respond state now q).1 = { state with counts } := by
  have hget : ∀ pairs route, ∃ counts, (s.get state now pairs route).1 = { state with counts } := by
    intro pairs route
    cases route with
    | health => exact ⟨_, state_health s state now pairs⟩
    | _ => exact ⟨state.counts, rfl⟩
  simp only [respond]
  split
  · exact ⟨state.counts, rfl⟩
  · split
    · exact hget ..
    · split
      · exact hget ..
      · exact ⟨state.counts, rfl⟩

/-- A publication delivers the report of its evaluation to everybody, or nothing to anybody, and the metrics
record what the publishers have them record of it. -/
theorem publish_cases (s : Service) (state : ServiceState) (now : Int) : ∃ counts,
    ((s.publish state now).2.evaluation.report? = none ∧ (s.publish state now).2.events = [] ∧
      (s.publish state now).1 = { state with counts }) ∨
    ∃ doneAt d, (s.publish state now).2.evaluation.report? = some d.report ∧
      (s.publish state now).2.events = s.broadcaster.deliver state.delivered doneAt d ∧
      (s.publish state now).1 = { state with
        metrics := (s.broadcaster.recordings state.delivered d).foldl .record state.metrics
        counts
        delivered := state.delivered ++ [d] } := by
  refine ⟨(s.broadcaster.round now state.counts state.delivered 0 0).counts, ?_⟩
  rcases s.broadcaster.round_cases now state.counts state.delivered 0 0 with
    ⟨hreport, hevents, hdelivery⟩ | ⟨doneAt, d, hreport, hevents, hdelivery⟩
  · refine .inl ⟨hreport, hevents, ?_⟩
    simp only [publish, Round.recorded, hevents, hdelivery, Option.toList_none, List.append_nil]
    rfl
  · refine .inr ⟨doneAt, d, hreport, hevents, ?_⟩
    simp only [publish, Round.recorded, hevents, hdelivery, Broadcaster.recorded_deliver,
      Option.toList_some]

/-- The metrics have recorded the reports that the publishers have received, and no others. -/
structure Told (state : ServiceState) (reports : List Report) : Prop where
  delivered : state.delivered.map (·.report) = reports
  metrics : state.metrics = .ofReports reports

theorem Told.moment (h : Told state reports) (hs : s.RegistersMetrics) (event : Int × Event) :
    Told (s.moment state event).state
      (reports ++ (s.moment state event).answer.published?.toList) := by
  obtain ⟨now, event⟩ := event
  cases event with
  | request q =>
    obtain ⟨counts, hstate⟩ := s.respond_eq state now q
    show Told (s.respond state now q).1 (reports ++ [])
    rw [hstate, List.append_nil]
    exact ⟨h.delivered, h.metrics⟩
  | setReady ready =>
    show Told { state with ready } (reports ++ [])
    rw [List.append_nil]
    exact ⟨h.delivered, h.metrics⟩
  | publish =>
    show Told (s.publish state now).1
      (reports ++ (s.publish state now).2.evaluation.report?.toList)
    obtain ⟨counts, ⟨hreport, -, hstate⟩ | ⟨doneAt, d, hreport, -, hstate⟩⟩ := s.publish_cases state now
    · rw [hreport, hstate, Option.toList_none, List.append_nil]
      exact ⟨h.delivered, h.metrics⟩
    · rw [hreport, hstate, Option.toList_some]
      refine ⟨?_, ?_⟩
      · show (state.delivered ++ [d]).map (·.report) = _
        rw [List.map_append, h.delivered]
        rfl
      · show (s.broadcaster.recordings state.delivered d).foldl .record state.metrics = _
        rw [hs.recordings_eq, h.metrics, Metrics.ofReports_concat]
        rfl

/-- Only a publication that delivers a report touches the metrics. -/
theorem metrics_moment (s : Service) (state : ServiceState) (event : Int × Event)
    (h : (s.moment state event).answer.published? = none) :
    (s.moment state event).state.metrics = state.metrics := by
  obtain ⟨now, event⟩ := event
  cases event with
  | request q => exact metrics_respond s state now q
  | setReady ready => rfl
  | publish =>
    have hnone : (s.publish state now).2.evaluation.report? = none := h
    show (s.publish state now).1.metrics = _
    obtain ⟨counts, ⟨-, -, hstate⟩ | ⟨doneAt, d, hreport, -, -⟩⟩ := s.publish_cases state now
    · rw [hstate]
    · rw [hreport] at hnone
      cases hnone

/-- A gateway is sent what the metrics of the service show then, whenever a report is published. -/
theorem sentBy_moment (hs : s.RegistersMetrics) (hp : s.broadcaster.publishers[j]? = some (.pushgateway p net))
    (h : Told state reports) (event : Int × Event) : (s.moment state event).answer.sentBy j =
      (s.moment state event).answer.published?.toList.map fun _ =>
        { p with metrics := (s.moment state event).state.metrics }.request := by
  obtain ⟨now, event⟩ := event
  cases event with
  | request q => rfl
  | setReady ready => rfl
  | publish =>
    show ((s.publish state now).2.events[j]?).toList.flatMap _ =
      (s.publish state now).2.evaluation.report?.toList.map fun _ =>
        { p with metrics := (s.publish state now).1.metrics }.request
    obtain ⟨counts, ⟨hreport, hevents, -⟩ | ⟨doneAt, d, hreport, hevents, hstate⟩⟩ :=
      s.publish_cases state now
    · rw [hreport, hevents]
      rfl
    · rw [hreport, hevents, hstate, Broadcaster.deliver, List.getElem?_map, hp]
      show [(Pushgateway.push { p with metrics := _ } d.report).2] =
        [{ p with metrics :=
          (s.broadcaster.recordings state.delivered d).foldl .record state.metrics }.request]
      rw [hs.recordings_eq, h.delivered, h.metrics]
      rfl

/-! ## Runs -/

theorem published_cons (m : Moment) (ms : List Moment) :
    published (m :: ms) = m.answer.published?.toList ++ published ms := by
  unfold published
  rw [List.filterMap_cons]
  cases m.answer.published? <;> rfl

theorem Told.after (h : Told state reports) (hs : s.RegistersMetrics) (events : List (Int × Event)) :
    Told (s.after state events) (reports ++ published (s.moments state events)) := by
  induction events generalizing state reports with
  | nil => exact (List.append_nil reports).symm ▸ h
  | cons event events ih =>
    rw [moments, published_cons, ← List.append_assoc]
    exact ih (h.moment hs event)

/-- A gateway is sent the pushes of metrics of its own, which record the reports that are published. -/
theorem sentBy_eq_pushes (hs : s.RegistersMetrics)
    (hp : s.broadcaster.publishers[j]? = some (.pushgateway p net))
    (h : Told state reports) (events : List (Int × Event)) : sentBy j (s.moments state events) =
      { p with metrics := .ofReports reports }.pushes (published (s.moments state events)) := by
  induction events generalizing state reports with
  | nil => rfl
  | cons event events ih =>
    -- The metrics of the service and those of the gateway have recorded the same reports.
    have hnext := h.moment hs event
    rw [moments, published_cons, sentBy, List.flatMap_cons, sentBy_moment hs hp h event,
      hnext.metrics, ← sentBy, ih hnext]
    cases (s.moment state event).answer.published? with
    | none => rw [Option.toList_none, List.append_nil]; rfl
    | some r =>
      rw [Option.toList_some, Metrics.ofReports_concat]
      rfl

/-- With each report that is published, a gateway is sent what the metrics of the service show after it. -/
theorem sentBy_shown (hs : s.RegistersMetrics)
    (hp : s.broadcaster.publishers[j]? = some (.pushgateway p net))
    (h : Told state reports) (events : List (Int × Event)) :
    List.Forall₂ (fun push m => push = { p with metrics := m.state.metrics }.request)
      (sentBy j (s.moments state events))
      ((s.moments state events).filter (·.answer.published?.isSome)) := by
  induction events generalizing state reports with
  | nil => exact .nil
  | cons event events ih =>
    have hnext := ih (h.moment hs event)
    rw [moments, sentBy, List.flatMap_cons, sentBy_moment hs hp h event, ← sentBy, List.filter_cons]
    cases hr : (s.moment state event).answer.published? with
    | none => exact hnext
    | some r => exact .cons rfl hnext

/-! ## What requests for the metrics get -/

theorem told_nothing : Told {} [] := ⟨rfl, rfl⟩

theorem respond_metrics {q : HttpRequest} (hq : q.Reads .metrics) (s : Service) (state : ServiceState)
    (now : Int) : (s.respond state now q).2 = {
      code := 200
      contentType := some Pushgateway.contentType
      body := state.metrics.exposition } := by
  simp only [respond, hq.path, if_pos hq.method]
  rfl

/-- A service that has started has the metrics among its publishers, once. Where they are, after any requests,
changes of the readiness and publications, `/metrics` shows metrics that have recorded the published reports,
in order, and no others: what publishes nothing leaves the metrics as they are. A gateway among the publishers,
whatever it answers, is sent one push for each of these reports, with metrics of its own, and the push shows
what `/metrics` shows right after the publication. -/
theorem metrics_show_published :
    (∀ env sources net st s, (Startup.boot env sources net).result.1 = .ok (st, s) →
      s.RegistersMetrics) ∧
    (∀ (s : Service) state event, (s.moment state event).answer.published? = none →
      (s.moment state event).state.metrics = state.metrics) ∧
    ∀ s : Service, s.RegistersMetrics →
      (∀ events now q, q.Reads .metrics → (s.respond (s.after {} events) now q).2 = {
        code := 200
        contentType := some Pushgateway.contentType
        body := (Metrics.ofReports (published (s.moments {} events))).exposition }) ∧
      ∀ j p net, s.broadcaster.publishers[j]? = some (.pushgateway p net) → ∀ events,
        sentBy j (s.moments {} events) =
          { p with metrics := .fresh }.pushes (published (s.moments {} events)) ∧
        List.Forall₂ (fun push m => ∀ now q, q.Reads .metrics →
            push.body = (s.respond m.state now q).2.body)
          (sentBy j (s.moments {} events))
          ((s.moments {} events).filter (·.answer.published?.isSome)) := by
  refine ⟨fun _ _ _ _ _ => registersMetrics_boot, metrics_moment, fun s hs =>
    ⟨fun events now q hq => ?_, fun j p net hp events =>
      ⟨sentBy_eq_pushes hs hp told_nothing events, ?_⟩⟩⟩
  · rw [respond_metrics hq, (told_nothing.after hs events).metrics, List.nil_append]
  · refine (sentBy_shown hs hp told_nothing events).imp fun push m hpush now q hq => ?_
    rw [respond_metrics hq, hpush]
    rfl

/-- A service with a probe that hangs at every other call and a gateway that cannot be reached. -/
def flaky : Service where
  broadcaster := {
    evaluator := { registry := {
      registrations := [{ name := "flaky", source := .shared ⟨fun n _ =>
        ⟨if n % 2 = 0 then none else some 0, .outcome { status := .healthy }⟩, false⟩ }]
      distinct := by decide
      notBlank := by decide } }
    publishers := [.prometheus,
      .pushgateway { url := { scheme := .http, host := .domain ['g'], path := [[]] } } .isolated] }

/-- Four calls of the probe, for a request and three publications. -/
def flakyEvents : List (Int × Event) :=
  [(0, .publish), (1, .request { method := "GET", url := "/health" }), (2, .publish), (3, .publish)]

/-- The first and the third call lead to reports; the request and the last publication are cancelled. A start
without any settings registers the metrics. -/
theorem metrics_show_published_flaky :
    (∃ r r' push push', flaky.RegistersMetrics ∧
      published (flaky.moments {} flakyEvents) = [r, r'] ∧
      sentBy 1 (flaky.moments {} flakyEvents) = [push, push'] ∧
      (flaky.respond (flaky.after {} flakyEvents) 4 { method := "GET", url := "/metrics" }).2.body =
        (Metrics.ofReports [r, r']).exposition ∧
      push'.body = (Metrics.ofReports [r, r']).exposition ∧
      (Metrics.ofReports [r, r']).evaluations = 2 ∧
      (Metrics.ofReports [r, r']).statuses.toList = [("flaky", 2)]) ∧
    ∃ st s, (Startup.boot (fun _ => none) (fun _ => .missing) .isolated).result.1 = .ok (st, s) ∧
      s.broadcaster.publisherNames = ["prometheus"] ∧ s.RegistersMetrics := by
  have hregisters : flaky.RegistersMetrics :=
    ⟨[], [_], rfl, fun p hp => List.mem_singleton.1 hp ▸ fun _ _ => rfl⟩
  obtain ⟨hboot, -, hservice⟩ := metrics_show_published
  obtain ⟨hmetrics, hsent⟩ := hservice flaky hregisters
  obtain ⟨hpushes, -⟩ := hsent 1 _ _ rfl flakyEvents
  obtain ⟨r, r', hreports⟩ : ∃ r r', published (flaky.moments {} flakyEvents) = [r, r'] :=
    ⟨_, _, rfl⟩
  have hshown : (Metrics.ofReports (published (flaky.moments {} flakyEvents))).statuses.toList =
      [("flaky", 2)] := by decide +kernel
  rw [hreports] at hpushes hshown
  refine ⟨⟨r, r', _, _, hregisters, hreports, hpushes, ?_, rfl, rfl, hshown⟩, ?_⟩
  · rw [hmetrics _ _ _ ⟨rfl, rfl⟩, hreports]
  · exact ⟨_, _, rfl, rfl, hboot (fun _ => none) (fun _ => .missing) .isolated _ _ rfl⟩

end Service

end HealthWatch
