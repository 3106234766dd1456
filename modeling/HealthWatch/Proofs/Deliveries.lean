import HealthWatch.Proofs.Notices
import HealthWatch.Proofs.Publication
import Mathlib.Data.List.Induction
/-!
# Deliveries that fail

`Notifier.sent_informAll` says what a notifier sends, report after report: for each notification that is due
one request to every webhook, in order, whatever came of the requests before. What it remembers of a service
depends on the reports only. `Service.moment_alike` compares a publication with the same publication where
all deliveries succeed, publisher by publisher, and `Service.deliveries_fail_alone` puts the two together for
whole runs of a service.
-/

namespace HealthWatch

namespace Network

/-- Every request is over some time, accepted or not. -/
def Settles (net : Network) : Prop :=
  ∀ number q, ((net.send number q).finishedAfter fun code => !isSuccess code).isSome

/-- Every request is accepted. -/
def Accepts (net : Network) : Prop :=
  ∀ number q, (net.send number q).after.isSome ∧
    ∃ code body, (net.send number q).reply = .response code body ∧ isSuccess code = true

theorem Accepts.settles {net : Network} (h : net.Accepts) : net.Settles := by
  intro number q
  obtain ⟨hafter, code, body, hreply, hcode⟩ := h number q
  have hfinished : ((net.send number q).finishedAfter fun code => !isSuccess code) =
      (net.send number q).after := by
    simp only [HttpExchange.finishedAfter, hreply, hcode, Bool.not_true, Bool.false_eq_true, if_false]
  rwa [hfinished]

end Network

/-! ## Notifying webhooks -/

namespace Notifier

/-- A report about a service, told to a notifier at an instant in nanoseconds since 1970. -/
structure Word where
  instant : Int
  service : String
  report : Report

/-- What a notifier is to observe of a report. -/
def Word.observation (w : Word) : Observation := ⟨w.service, w.report.overall, w.instant⟩

/-- What reports lead to, one after another. -/
def informAll (n : Notifier) (net : Network) : NotifierState → List Word → List Informed
  | _, [] => []
  | state, w :: ws =>
    let informed := n.inform net state w.instant w.service w.report
    informed :: n.informAll net informed.state ws

variable {n : Notifier} {net : Network} {state : NotifierState} {instant : Int} {name : String}
  {kind : Notice} {r : Report}

/-- One request goes to each webhook, in order. -/
theorem requests_postAll (hnet : net.Settles) (number : Nat) (ws : List Webhook) :
    (postAll net name kind r number ws).map (·.request) = ws.map (request name kind r) := by
  induction ws generalizing number with
  | nil => rfl
  | cons w ws ih =>
    obtain ⟨wait, hwait⟩ := Option.isSome_iff_exists.1 (hnet number (request name kind r w))
    rw [postAll, Posting.wait, hwait]
    dsimp only
    rw [List.map_cons, List.map_cons, ih]

theorem result_of_accepts (hnet : net.Accepts) {number : Nat} {ws : List Webhook} {p : Posting}
    (hp : p ∈ postAll net name kind r number ws) : p.result = .ok () := by
  induction ws generalizing number with
  | nil => cases hp
  | cons w ws ih =>
    obtain ⟨-, code, body, hreply, hcode⟩ := hnet number (request name kind r w)
    have hfirst : Posting.result ⟨w, request name kind r w, net.send number (request name kind r w)⟩ =
        .ok () := by
      rw [Posting.result, hreply, HttpReply.judge, if_pos hcode]
    rw [postAll] at hp
    split at hp
    · rcases List.mem_cons.1 hp with rfl | hp
      · exact hfirst
      · exact ih hp
    · rw [List.mem_singleton.1 hp]
      exact hfirst

/-- The requests that are due are made. -/
theorem requests_inform (hnet : net.Settles) :
    (n.inform net state instant name r).postings.map (·.request) =
      n.requests name r (n.inform net state instant name r).kind := by
  unfold inform requests
  dsimp only
  split
  · exact requests_postAll hnet _ _
  · rfl

/-- What is decided and remembered of the service does not depend on the network. -/
theorem book_inform : (n.inform net state instant name r).state.book =
    (state.book.see n.minInterval ⟨name, r.overall, instant⟩).1 := rfl

/-- Report after report, the requests that are due are made, and what is due does not depend on the
network. -/
theorem sent_informAll (hnet : net.Settles) (state : NotifierState) (ws : List Word) :
    (n.informAll net state ws).map (fun i => (i.kind, i.postings.map (·.request))) =
      List.zipWith (fun w (p : Observation × Option Notice) => (p.2, n.requests w.service w.report p.2))
        ws (LivenessBook.run n.minInterval state.book (ws.map (·.observation))) := by
  induction ws generalizing state with
  | nil => rfl
  | cons w ws ih =>
    rw [informAll, List.map_cons, ih, requests_inform hnet, book_inform]
    rfl

/-- Where every request is accepted, every notification succeeds. -/
theorem result_informAll (hnet : net.Accepts) {ws : List Word} {i : Informed}
    (hi : i ∈ n.informAll net state ws) {p : Posting} (hp : p ∈ i.postings) : p.result = .ok () := by
  induction ws generalizing state with
  | nil => cases hi
  | cons w ws ih =>
    rcases List.mem_cons.1 hi with rfl | hi
    · unfold inform at hp
      dsimp only at hp
      split at hp
      · exact result_of_accepts hnet hp
      · cases hp
    · exact ih hi

end Notifier

/-! ## Publishers -/

namespace Publisher

/-- What a publisher sends with each of several reports, after earlier ones. -/
def sends (p : Publisher) : (earlier : List Delivery) → List Delivery → List (List HttpRequest)
  | _, [] => []
  | earlier, d :: ds => (p.publish earlier d).requests :: p.sends (earlier ++ [d]) ds

/-- Two publishers that may differ in what comes of their deliveries, and not in what they have the metrics
record and what they send. -/
structure SendsAlike (p q : Publisher) : Prop where
  name : p.name = q.name
  recorded : ∀ earlier d, (p.publish earlier d).recorded = (q.publish earlier d).recorded
  requests : ∀ earlier d, (p.publish earlier d).requests = (q.publish earlier d).requests

/-- A publisher, whatever comes of its deliveries, and the same publisher if they succeed. -/
inductive Succeeding : Publisher → Publisher → Prop
  | webhook (n : Notifier) {net net' : Network} (hnet : net.Settles) (hnet' : net'.Accepts) :
    Succeeding (.webhook n net) (.webhook n net')
  | pushgateway (p : Pushgateway) (net : Network) {net' : Network} (hnet' : net'.Accepts) :
    Succeeding (.pushgateway p net) (.pushgateway p net')
  | other (p : Publisher) : Succeeding p
    { p with publish := fun earlier d => { p.publish earlier d with result := .ok () } }

variable {n : Notifier} {net net' : Network}

/-- What a notifier is told with a delivery. -/
def word (n : Notifier) (d : Delivery) : Notifier.Word := ⟨d.time * 1_000_000, n.liveness, d.report⟩

theorem stateAfter_concat (earlier : List Delivery) (d : Delivery) :
    stateAfter n net (earlier ++ [d]) =
      (n.inform net (stateAfter n net earlier) (d.time * 1_000_000) n.liveness d.report).state := by
  rw [stateAfter, List.foldl_append]
  rfl

theorem sends_webhook (n : Notifier) (net : Network) (earlier ds : List Delivery) :
    (webhook n net).sends earlier ds =
      (n.informAll net (stateAfter n net earlier) (ds.map (word n))).map fun i =>
        i.postings.map (·.request) := by
  induction ds generalizing earlier with
  | nil => rfl
  | cons d ds ih =>
    rw [sends, ih, stateAfter_concat]
    rfl

/-- What a notifier remembers of its service depends on the reports only. -/
theorem book_stateAfter (n : Notifier) (net net' : Network) (earlier : List Delivery) :
    (stateAfter n net earlier).book = (stateAfter n net' earlier).book := by
  induction earlier using List.reverseRecOn with
  | nil => rfl
  | append_singleton earlier d ih =>
    rw [stateAfter_concat, stateAfter_concat, Notifier.book_inform, Notifier.book_inform, ih]

theorem requests_webhook (hnet : net.Settles) (hnet' : net'.Settles) (earlier : List Delivery)
    (d : Delivery) : ((webhook n net).publish earlier d).requests =
      ((webhook n net').publish earlier d).requests := by
  have hkind : ∀ state state' : NotifierState, state.book = state'.book →
      (n.inform net state (d.time * 1_000_000) n.liveness d.report).kind =
        (n.inform net' state' (d.time * 1_000_000) n.liveness d.report).kind := by
    intro state state' h
    unfold Notifier.inform
    rw [h]
  show List.map _ _ = List.map _ _
  rw [Notifier.requests_inform hnet, Notifier.requests_inform hnet',
    hkind _ _ (book_stateAfter n net net' earlier)]

theorem Succeeding.sendsAlike {p q : Publisher} (h : Succeeding p q) : SendsAlike p q := by
  cases h with
  | webhook n hnet hnet' => exact ⟨rfl, fun _ _ => rfl, requests_webhook hnet hnet'.settles⟩
  | pushgateway p net hnet' => exact ⟨rfl, fun _ _ => rfl, fun _ _ => rfl⟩
  | other p => exact ⟨rfl, fun _ _ => rfl, fun _ _ => rfl⟩

end Publisher

/-! ## Services -/

/-- The same service with other publishers. -/
def Service.withPublishers (s : Service) (ps : List Publisher) : Service :=
  { s with broadcaster := { s.broadcaster with publishers := ps } }

/-- What one publisher receives, has the metrics record and sends. -/
structure PublisherEvent.Alike (e e' : PublisherEvent) : Prop where
  publisher : e.publisher = e'.publisher
  report : e.report = e'.report
  recorded : e.publication.recorded = e'.publication.recorded
  requests : e.publication.requests = e'.publication.requests

/-- Two rounds that may differ in what comes of the deliveries and in how long they take. -/
structure Round.Alike (r r' : Round) : Prop where
  evaluation : r.evaluation = r'.evaluation
  events : List.Forall₂ PublisherEvent.Alike r.events r'.events

theorem Round.Alike.recorded {r r' : Round} (h : r.Alike r') : r.recorded = r'.recorded := by
  have hall : ∀ {es es' : List PublisherEvent}, List.Forall₂ PublisherEvent.Alike es es' →
      es.filterMap (·.publication.recorded) = es'.filterMap (·.publication.recorded) := by
    intro es es' hes
    induction hes with
    | nil => rfl
    | cons he _ ih => rw [List.filterMap_cons, List.filterMap_cons, he.recorded, ih]
  exact hall h.events

namespace Service

/-- The same answer, up to what comes of deliveries. -/
inductive Answer.Alike : Answer → Answer → Prop
  | response (r : Response) : Alike (.response r) (.response r)
  | readiness (ready : Bool) : Alike (.readiness ready) (.readiness ready)
  | round {r r' : Round} (h : r.Alike r') : Alike (.round r) (.round r')

/-- The same answer, up to what comes of deliveries, and the same state after it. -/
structure Moment.Alike (m m' : Moment) : Prop where
  answer : m.answer.Alike m'.answer
  state : m.state = m'.state

/-- What the publisher of an index sent with a report, if there was one. -/
def Answer.sending? (j : Nat) : Answer → Option (List HttpRequest)
  | round r => (r.events[j]?).map (·.publication.requests)
  | _ => none

/-- What the publisher of an index has sent with each report; `sentBy` runs the same requests together. -/
def sendings (j : Nat) (moments : List Moment) : List (List HttpRequest) :=
  moments.filterMap (·.answer.sending? j)

variable {s : Service} {ps : List Publisher} {state : ServiceState} {j : Nat} {p : Publisher}

theorem deliver_alike (h : List.Forall₂ Publisher.SendsAlike s.broadcaster.publishers ps)
    (earlier : List Delivery) (doneAt doneAt' : Nat) (d : Delivery) :
    List.Forall₂ PublisherEvent.Alike (s.broadcaster.deliver earlier doneAt d)
      ((s.withPublishers ps).broadcaster.deliver earlier doneAt' d) := by
  refine List.forall₂_map_left_iff.2 (List.forall₂_map_right_iff.2 (h.imp fun p q hpq => ?_))
  exact ⟨hpq.name, rfl, hpq.recorded earlier d, hpq.requests earlier d⟩

/-- A publication evaluates and delivers the same to publishers that send alike. -/
theorem publish_alike (h : List.Forall₂ Publisher.SendsAlike s.broadcaster.publishers ps)
    (state : ServiceState) (now : Int) :
    (s.publish state now).2.Alike ((s.withPublishers ps).publish state now).2 := by
  refine ⟨rfl, ?_⟩
  have hdelivery : (s.broadcaster.round now state.counts state.delivered 0 0).delivery =
    ((s.withPublishers ps).broadcaster.round now state.counts state.delivered 0 0).delivery := rfl
  show List.Forall₂ _ (s.broadcaster.round now state.counts state.delivered 0 0).round.events
    ((s.withPublishers ps).broadcaster.round now state.counts state.delivered 0 0).round.events
  -- Both rounds have the same delivery, so that both have events or neither has.
  rcases s.broadcaster.round_cases now state.counts state.delivered 0 0 with
    ⟨-, hevents, hnone⟩ | ⟨doneAt, d, -, hevents, hsome⟩
  all_goals
    rcases (s.withPublishers ps).broadcaster.round_cases now state.counts state.delivered 0 0 with
      ⟨-, hevents', hnone'⟩ | ⟨doneAt', d', -, hevents', hsome'⟩
  · rw [hevents, hevents']
    exact .nil
  · rw [hnone, hsome'] at hdelivery
    cases hdelivery
  · rw [hsome, hnone'] at hdelivery
    cases hdelivery
  · rw [hsome, hsome'] at hdelivery
    cases hdelivery
    rw [hevents, hevents']
    exact deliver_alike h _ _ _ _

/-- What publishers that send alike leave behind is the same, too: the metrics record the same. -/
theorem state_publish_alike (h : List.Forall₂ Publisher.SendsAlike s.broadcaster.publishers ps)
    (state : ServiceState) (now : Int) :
    (s.publish state now).1 = ((s.withPublishers ps).publish state now).1 := by
  have hrecorded : (s.publish state now).2.recorded =
      ((s.withPublishers ps).publish state now).2.recorded := (publish_alike h state now).recorded
  show ServiceState.mk _ ((s.publish state now).2.recorded.foldl .record state.metrics) _ _ = _
  rw [hrecorded]
  rfl

theorem moment_alike (h : List.Forall₂ Publisher.SendsAlike s.broadcaster.publishers ps)
    (state : ServiceState) (event : Int × Event) :
    (s.moment state event).Alike ((s.withPublishers ps).moment state event) := by
  obtain ⟨now, event⟩ := event
  cases event with
  | request q => exact ⟨.response _, rfl⟩
  | setReady ready => exact ⟨.readiness _, rfl⟩
  | publish => exact ⟨.round (publish_alike h state now), state_publish_alike h state now⟩

theorem moments_alike (h : List.Forall₂ Publisher.SendsAlike s.broadcaster.publishers ps)
    (state : ServiceState) (events : List (Int × Event)) :
    List.Forall₂ Moment.Alike (s.moments state events) ((s.withPublishers ps).moments state events) := by
  induction events generalizing state with
  | nil => exact .nil
  | cons event events ih =>
    have hmoment := moment_alike h state event
    rw [moments, moments, ← hmoment.state]
    exact .cons hmoment (ih _)

/-! ### What one publisher sends -/

/-- A publication sends what the publisher makes of the delivery, if there is one. -/
theorem sending_moment (hp : s.broadcaster.publishers[j]? = some p) (state : ServiceState)
    (event : Int × Event) : ∃ d? : Option Delivery,
      (s.moment state event).state.delivered = state.delivered ++ d?.toList ∧
      (s.moment state event).answer.sending? j = d?.map fun d => (p.publish state.delivered d).requests := by
  obtain ⟨now, event⟩ := event
  cases event with
  | request q =>
    obtain ⟨counts, hstate⟩ := s.respond_eq state now q
    refine ⟨none, ?_, rfl⟩
    show (s.respond state now q).1.delivered = _
    rw [hstate, Option.toList_none, List.append_nil]
  | setReady ready => exact ⟨none, (List.append_nil _).symm, rfl⟩
  | publish =>
    show ∃ d? : Option Delivery, (s.publish state now).1.delivered = _ ∧
      ((s.publish state now).2.events[j]?).map _ = _
    obtain ⟨counts, ⟨-, hevents, hstate⟩ | ⟨doneAt, d, -, hevents, hstate⟩⟩ := s.publish_cases state now
    · refine ⟨none, ?_, ?_⟩
      · rw [hstate, Option.toList_none, List.append_nil]
      · rw [hevents]
        rfl
    · refine ⟨some d, ?_, ?_⟩
      · rw [hstate]
        rfl
      · rw [hevents, Broadcaster.deliver, List.getElem?_map, hp]
        rfl

theorem sendings_cons (m : Moment) (ms : List Moment) :
    sendings j (m :: ms) = (m.answer.sending? j).toList ++ sendings j ms := by
  unfold sendings
  rw [List.filterMap_cons]
  cases m.answer.sending? j <;> rfl

/-- Over a run, a publisher sends what it makes of the deliveries, one after another. -/
theorem sendings_moments (hp : s.broadcaster.publishers[j]? = some p) (state : ServiceState)
    (events : List (Int × Event)) : ∃ ds, (s.after state events).delivered = state.delivered ++ ds ∧
      sendings j (s.moments state events) = p.sends state.delivered ds := by
  induction events generalizing state with
  | nil => exact ⟨[], (List.append_nil _).symm, rfl⟩
  | cons event events ih =>
    obtain ⟨d?, hdelivered, hsending⟩ := sending_moment hp state event
    obtain ⟨ds, hafter, hsendings⟩ := ih (s.moment state event).state
    refine ⟨d?.toList ++ ds, ?_, ?_⟩
    · show (s.after (s.moment state event).state events).delivered = _
      rw [hafter, hdelivered, List.append_assoc]
    · rw [moments, sendings_cons, hsendings, hsending, hdelivered]
      cases d? with
      | none => rw [Option.toList_none, List.append_nil]; rfl
      | some d => rfl

/-- A notifier among the publishers sends one request to each webhook, in order, with every report for which
a notification is due, and nothing with the others. -/
theorem sendings_webhook {n : Notifier} {net : Network}
    (hp : s.broadcaster.publishers[j]? = some (.webhook n net)) (hnet : net.Settles)
    (events : List (Int × Event)) : sendings j (s.moments {} events) =
      List.zipWith (fun d (p : Observation × Option Notice) => n.requests n.liveness d.report p.2)
        (s.after {} events).delivered
        (LivenessBook.run n.minInterval .empty
          ((s.after {} events).delivered.map fun d => (Publisher.word n d).observation)) := by
  obtain ⟨ds, hdelivered, hsendings⟩ := sendings_moments hp {} events
  have hsent := congrArg (List.map Prod.snd)
    (Notifier.sent_informAll (n := n) hnet {} (ds.map (Publisher.word n)))
  rw [List.map_map, List.map_zipWith, List.zipWith_map_left, List.map_map] at hsent
  rw [hsendings, Publisher.sends_webhook, hdelivered]
  exact hsent

/-- Deliveries that fail leave everything else alone. Told of any reports, a notifier whose requests are all
over some time decides and sends what it would decide and send if they all succeeded: with each notification
that is due, one request to every webhook, in order. A service whose publishers fail in any way evaluates,
answers, remembers and hands to each publisher what it would if all deliveries succeeded, and a notifier
among its publishers sends what is due. -/
theorem deliveries_fail_alone :
    (∀ (n : Notifier) (net net' : Network), net.Settles → net'.Accepts → ∀ state ws,
      (n.informAll net state ws).map (fun i => (i.kind, i.postings.map (·.request))) =
        (n.informAll net' state ws).map (fun i => (i.kind, i.postings.map (·.request))) ∧
      (n.informAll net state ws).map (fun i => (i.kind, i.postings.map (·.request))) =
        List.zipWith (fun w (p : Observation × Option Notice) => (p.2, n.requests w.service w.report p.2))
          ws (LivenessBook.run n.minInterval state.book (ws.map (·.observation))) ∧
      ∀ i ∈ n.informAll net' state ws, ∀ p ∈ i.postings, p.result = .ok ()) ∧
    ∀ (s : Service) (ps : List Publisher),
      List.Forall₂ Publisher.Succeeding s.broadcaster.publishers ps → ∀ events,
        List.Forall₂ Moment.Alike (s.moments {} events) ((s.withPublishers ps).moments {} events) ∧
        ∀ j n net, s.broadcaster.publishers[j]? = some (.webhook n net) → net.Settles →
          sendings j (s.moments {} events) =
            List.zipWith (fun d (p : Observation × Option Notice) => n.requests n.liveness d.report p.2)
              (s.after {} events).delivered
              (LivenessBook.run n.minInterval .empty
                ((s.after {} events).delivered.map fun d => (Publisher.word n d).observation)) := by
  refine ⟨fun n net net' hnet hnet' state ws => ⟨?_, ?_, fun i hi p hp => ?_⟩, fun s ps hps events => ⟨?_, ?_⟩⟩
  · rw [Notifier.sent_informAll hnet, Notifier.sent_informAll hnet'.settles]
  · exact Notifier.sent_informAll hnet state ws
  · exact Notifier.result_informAll hnet' hi hp
  · exact moments_alike (hps.imp fun _ _ h => h.sendsAlike) {} events
  · exact fun j n net hp hnet => sendings_webhook hp hnet events

/-- A network in which every other request is rejected, and no request arrives between them. -/
def refusing : Network :=
  { Network.isolated with
    send := fun number _ =>
      { reply := if number % 2 = 1 then .response 500 (some "no") else .failed "unreachable" } }

/-- A network in which every request is accepted. -/
def welcoming : Network :=
  { Network.isolated with send := fun _ _ => { reply := .response 204 none } }

/-- A notifier with two webhooks. -/
def pager : Notifier where
  liveness := "site"
  webhooks := [
    { name := "ops", url := "http://ops/hook", payload := "[[LIVENESS]] down", restorePayload := "up" },
    { name := "chat", url := "http://chat/hook", payload := "[[DESCRIPTIONS]]", restorePayload := "ok" }]
  minInterval := .ofSecs 600

/-- A service with a check that fails at its first two calls, a gateway and webhooks, over a network. -/
def recovering (net : Network) : Service where
  broadcaster := {
    evaluator := { registry := {
      registrations := [{ name := "disk", source := .shared ⟨fun n _ => ⟨some 0, .outcome
        (if n ≤ 2 then { status := .unhealthy, description := some "full" }
          else { status := .healthy })⟩, false⟩ }]
      distinct := by decide
      notBlank := by decide } }
    publishers := [
      .pushgateway { url := { scheme := .http, host := .domain ['g'], path := [[]] } } net,
      .webhook pager net] }

/-- The outage and the recovery are sent to both webhooks although nothing is accepted, and the reminder is
held back although the outage reached nobody. -/
theorem deliveries_fail_alone_recovering :
    let events : List (Int × Event) := [(0, .publish), (1, .publish), (2, .publish)]
    (refusing.Settles ∧ welcoming.Accepts) ∧
      (sendings 1 ((recovering refusing).moments {} events)).map
          (·.map fun q => (q.method, q.url, String.ofList q.body)) =
        [[("POST", "http://ops/hook", "site down"), ("POST", "http://chat/hook", "full")], [],
          [("POST", "http://ops/hook", "up"), ("POST", "http://chat/hook", "ok")]] ∧
      List.Forall₂ Moment.Alike ((recovering refusing).moments {} events)
        ((recovering welcoming).moments {} events) := by
  intro events
  have hrefusing : refusing.Settles := by
    intro number q
    show (HttpExchange.finishedAfter ⟨if number % 2 = 1 then _ else _, some 0, some 0⟩ _).isSome
    split <;> rfl
  have hwelcoming : welcoming.Accepts := fun _ _ => ⟨rfl, 204, none, rfl, rfl⟩
  obtain ⟨-, hservice⟩ := deliveries_fail_alone
  obtain ⟨halike, hsends⟩ := hservice (recovering refusing) (recovering welcoming).broadcaster.publishers
    (.cons (.pushgateway _ _ hwelcoming) (.cons (.webhook _ hrefusing hwelcoming) .nil)) events
  refine ⟨⟨hrefusing, hwelcoming⟩, ?_, halike⟩
  rw [hsends 1 pager refusing rfl hrefusing]
  decide +kernel

end Service

end HealthWatch
