import HealthWatch.Proofs.Reports
import HealthWatch.Service
/-!
# What a request for an evaluation gets

The pairs of a query are filters or they are not. `mem_select_ofPairs` says which checks filters ask for,
`ofPairs_congr` that nothing but the set of filters matters. An evaluation with a deadline completes or is
cancelled, and `tells_health` says how either is told; `health_end_to_end` is the whole way of a request.
-/

namespace HealthWatch

/-! ## Filters -/

/-- Whether a pair of a query narrows down the checks: it names one, or a tag. -/
def Form.IsFilter (p : String × String) : Prop := p.1 = "name" ∨ p.1 = "tag"

theorem Form.values_eq_nil_iff {key : String} {pairs : List (String × String)} :
    values key pairs = [] ↔ ∀ p ∈ pairs, p.1 ≠ key := by
  simp [values, List.filter_eq_nil_iff]

namespace Selector

variable {pairs more : List (String × String)} {g : Registry} {r : Registration}

/-- Filters mean the sets of the names and tags in them. -/
theorem ofFilters_congr {names names' tags tags' : List String}
    (hnames : ∀ n, n ∈ names' ↔ n ∈ names) (htags : ∀ t, t ∈ tags' ↔ t ∈ tags) :
    ofFilters names' tags' = ofFilters names tags := by
  have hnil : ∀ {l l' : List String}, (∀ n, n ∈ l' ↔ n ∈ l) → (l' = [] ↔ l = []) := by
    intro l l' h
    simp only [List.eq_nil_iff_forall_not_mem, h]
  have hset : ∀ {l l' : List String}, (∀ n, n ∈ l' ↔ n ∈ l) → NameSet.ofList l' = .ofList l := by
    intro l l' h
    refine NameSet.ext fun n => ?_
    rw [NameSet.mem_ofList, NameSet.mem_ofList, h]
  simp only [ofFilters, hnil hnames, hnil htags, hset hnames, hset htags]

/-- Queries with the same filters ask for the same checks, whatever the order of the filters, however often
they are repeated and whatever else is in the query. -/
theorem ofPairs_congr (h : ∀ p, Form.IsFilter p → (p ∈ more ↔ p ∈ pairs)) :
    ofPairs more = ofPairs pairs := by
  refine ofFilters_congr (fun n => ?_) (fun t => ?_)
  · rw [Form.mem_values, Form.mem_values]
    exact h _ (.inl rfl)
  · rw [Form.mem_values, Form.mem_values]
    exact h _ (.inr rfl)

/-- The checks that the filters of a query name, or that carry a tag in them; without filters all checks. -/
theorem mem_select_ofPairs : r ∈ g.select (ofPairs pairs) ↔ r ∈ g.registrations ∧
    ((∀ p ∈ pairs, ¬ Form.IsFilter p) ∨ ("name", r.name) ∈ pairs ∨ ∃ t ∈ r.tags, ("tag", t) ∈ pairs) := by
  have hnone : (Form.values "name" pairs = [] ∧ Form.values "tag" pairs = []) ↔
      ∀ p ∈ pairs, ¬ Form.IsFilter p := by
    simp only [Form.values_eq_nil_iff, Form.IsFilter, not_or, ← forall_and]
  rw [Registry.select, List.mem_filter, ofPairs, accepts_ofFilters, hnone]
  simp only [Form.mem_values, and_comm]

theorem mem_select_of_filter (h : ∃ p ∈ pairs, Form.IsFilter p) : r ∈ g.select (ofPairs pairs) ↔
    r ∈ g.registrations ∧ (("name", r.name) ∈ pairs ∨ ∃ t ∈ r.tags, ("tag", t) ∈ pairs) := by
  obtain ⟨p, hp, hf⟩ := h
  have hsome : ¬ ∀ p ∈ pairs, ¬ Form.IsFilter p := fun hnone => hnone p hp hf
  rw [mem_select_ofPairs, or_iff_right hsome]

/-- More filters ask for more checks, as long as there are any to begin with. -/
theorem mem_select_ofPairs_append (hp : ∃ p ∈ pairs, Form.IsFilter p) (hm : ∃ p ∈ more, Form.IsFilter p) :
    r ∈ g.select (ofPairs (pairs ++ more)) ↔
      r ∈ g.select (ofPairs pairs) ∨ r ∈ g.select (ofPairs more) := by
  have hboth : ∃ p ∈ pairs ++ more, Form.IsFilter p := by
    obtain ⟨p, hp, hf⟩ := hp
    exact ⟨p, List.mem_append_left _ hp, hf⟩
  rw [mem_select_of_filter hboth, mem_select_of_filter hp, mem_select_of_filter hm, ← and_or_left]
  refine and_congr_right fun _ => ?_
  constructor
  · rintro (hname | ⟨t, ht, htag⟩)
    · exact (List.mem_append.1 hname).imp .inl .inl
    · exact (List.mem_append.1 htag).imp (fun h => .inr ⟨t, ht, h⟩) fun h => .inr ⟨t, ht, h⟩
  · rintro ((hname | ⟨t, ht, htag⟩) | hname | ⟨t, ht, htag⟩)
    · exact .inl (List.mem_append_left _ hname)
    · exact .inr ⟨t, ht, List.mem_append_left _ htag⟩
    · exact .inl (List.mem_append_right _ hname)
    · exact .inr ⟨t, ht, List.mem_append_right _ htag⟩

end Selector

/-! ## Deadlines -/

/-- A deadline stops an evaluation at its start only when it leaves no time at all. -/
theorem EvaluationLimits.stopsAtStart_deadline {d : Duration} :
    ({ deadline := some d } : EvaluationLimits).stopsAtStart = true ↔ d.nanos = 0 := by
  simp [stopsAtStart_iff, Duration.ceilMillis_eq_zero_iff]

/-! ## The response -/

/-- The code that is configured for a status. -/
inductive ResponseCodes.Assigns (codes : ResponseCodes) : Status → Nat → Prop
  | healthy : Assigns codes .healthy codes.healthy
  | degraded : Assigns codes .degraded codes.degraded
  | unhealthy : Assigns codes .unhealthy codes.unhealthy

theorem ResponseCodes.assigns_code (codes : ResponseCodes) (status : Status) :
    codes.Assigns status (codes.code status) := by
  cases status with
  | healthy => exact .healthy
  | degraded => exact .degraded
  | unhealthy => exact .unhealthy

/-- A response shows a dashboard under a code that is configured for it, if it can be sent. -/
structure Response.Shows (answer : Response) (configured : Nat) (d : Dashboard) : Prop where
  code : answer.code = if 100 ≤ configured ∧ configured ≤ 999 then configured else 503
  body : answer.body = d.text

/-- What a dashboard shows when there is no report: one check that failed. -/
structure Dashboard.Fails (d : Dashboard) (check message : String) : Prop where
  status : d.status = .unhealthy
  entries : ∃ entry, d.entries.toList = [(check, entry)] ∧ entry.status = .unhealthy ∧
    entry.description = some message ∧ entry.exception = some message

theorem Dashboard.fails_ofError (message : String) : (ofError message).Fails "endpoint" message where
  status := rfl
  entries := ⟨_, rfl, rfl, rfl, rfl⟩

namespace Service

variable {s : Service} {state : ServiceState} {now : Int} {pairs : List (String × String)}

/-- The checks that a query asks for. -/
def asked (s : Service) (pairs : List (String × String)) : List Registration :=
  s.broadcaster.evaluator.registry.select (.ofPairs pairs)

/-- What the response tells of an evaluation. A report is shown under the code of its worst entry, and an
evaluation without one as a failure. -/
inductive Tells (s : Service) (pairs : List (String × String)) : Verdict → Response → Prop
  | report {report : Report} {worst : Status} {configured : Nat} {answer : Response}
    (entries : report.entries.keys.Perm ((s.asked pairs).map (·.name)))
    (bound : ∀ entry ∈ report.entries.values, entry.status ≤ worst)
    (attained : report.entries.values = [] ∧ worst = .healthy ∨
      ∃ entry ∈ report.entries.values, entry.status = worst)
    (code : s.codes.Assigns worst configured)
    (shows : answer.Shows configured (.ofReport report)) :
    Tells s pairs (.completed report) answer
  | failure {d : Dashboard} {answer : Response}
    (fails : d.Fails "endpoint" "evaluation cancelled before all checks completed")
    (shows : answer.Shows s.codes.unhealthy d) : Tells s pairs .cancelled answer

theorem tells_health : s.Tells pairs (s.evaluation state now pairs).1.verdict
    (s.health state now pairs).2 := by
  show s.Tells pairs _ (healthResponse s.codes (s.evaluation state now pairs).1.verdict)
  cases hv : (s.evaluation state now pairs).1.verdict with
  | completed report =>
    obtain ⟨f, -, -, -, hkeys, -⟩ := Evaluator.entries_of_completed hv
    obtain ⟨hbound, hworst⟩ := report.overall_is_worst
    exact .report hkeys hbound hworst (s.codes.assigns_code _) ⟨rfl, rfl⟩
  | cancelled => exact .failure (Dashboard.fails_ofError _) ⟨rfl, rfl⟩
  | pending =>
    -- The deadline does not let an evaluation go on for ever.
    obtain ⟨-, hdeadline, -⟩ := Evaluator.pending_iff.1 hv
    cases hdeadline

/-- A request for an evaluation is answered by the evaluation that its query asks for. Without filters that
is one of all checks, and otherwise of those that are named or carry one of the tags; nothing else in a query
matters. -/
theorem health_end_to_end (s : Service) (state : ServiceState) (now : Int)
    (pairs : List (String × String)) :
    (∀ q : HttpRequest, q.method = "GET" →
        RequestTarget.read q.url.toList = ⟨"/health".toList, pairs⟩ →
        s.respond state now q = s.health state now pairs) ∧
      (∀ r, r ∈ s.asked pairs ↔ r ∈ s.broadcaster.evaluator.registry.registrations ∧
        ((∀ p ∈ pairs, ¬ Form.IsFilter p) ∨ ("name", r.name) ∈ pairs ∨
          ∃ t ∈ r.tags, ("tag", t) ∈ pairs)) ∧
      (∀ more, (∀ p, Form.IsFilter p → (p ∈ more ↔ p ∈ pairs)) →
        s.asked more = s.asked pairs ∧ s.health state now more = s.health state now pairs) ∧
      (∀ more, (∃ p ∈ pairs, Form.IsFilter p) → (∃ p ∈ more, Form.IsFilter p) →
        ∀ r, r ∈ s.asked (pairs ++ more) ↔ r ∈ s.asked pairs ∨ r ∈ s.asked more) ∧
      (s.evaluation state now pairs).1.calls.map (·.check) =
        (if s.requestTimeout.nanos = 0 then []
          else ((s.asked pairs).filter s.broadcaster.evaluator.canProbe).map (·.name)) ∧
      s.Tells pairs (s.evaluation state now pairs).1.verdict (s.health state now pairs).2 := by
  refine ⟨?_, fun r => Selector.mem_select_ofPairs, ?_, ?_, ?_, tells_health⟩
  · intro q hq ht
    have hroute : Route.ofPath? "/health".toList = some .health := Route.ofPath?_path .health
    unfold respond
    simp only [ht, hroute, if_pos hq]
    rfl
  · intro more h
    have hsame := Selector.ofPairs_congr h
    refine ⟨by rw [asked, hsame, asked], ?_⟩
    unfold health evaluation
    rw [hsame]
  · intro more hp hm r
    exact Selector.mem_select_ofPairs_append hp hm
  · rw [evaluation, Evaluator.calls_evaluate]
    simp only [EvaluationLimits.stopsAtStart_deadline]
    rfl

/-- A service with codes of its own, the last of which no response can carry. -/
def coded : Service where
  broadcaster := { evaluator := { registry := .mixed } }
  codes := { degraded := 218, unhealthy := 42 }

/-- The service with another code and with less time than a check takes. -/
def hurried : Service :=
  { coded with codes := { unhealthy := 599 }, requestTimeout := .ofNanos 3_000_000 }

/-- A query for a tag, which one of three checks carries, with a pair that is no filter: the check is degraded.
A query for a check by its name besides: it times out, and no response can carry the code for that. And the
first query with less time than the check takes: it is cancelled. -/
theorem health_end_to_end_tagged :
    let tagged := [("tag", "ready"), ("verbose", "1")]
    let more := [("name", "hangs")]
    let degraded := (coded.respond {} 0 { method := "GET", url := "/health?tag=ready&verbose=1" }).2
    let worse := (coded.respond {} 0 { method := "GET", url := "/health?tag=ready&verbose=1&name=hangs" }).2
    let late := (hurried.respond {} 0 { method := "GET", url := "/health?tag=ready&verbose=1" }).2
    (coded.Tells tagged (coded.evaluation {} 0 tagged).1.verdict degraded ∧ degraded.code = 218 ∧
      degraded.body = [
        "\x7b\"status\":\"Degraded\",\"totalDuration\":\"00:00:00.0030000\",\"entries\":\x7b\"found\":",
        "\x7b\"data\":\x7b\x7d,\"description\":null,\"duration\":\"00:00:00.0030000\",\"exception\":null,",
        "\"status\":\"Degraded\",\"tags\":[\"ready\"]\x7d\x7d\x7d"].flatMap String.toList) ∧
    (coded.Tells (tagged ++ more) (coded.evaluation {} 0 (tagged ++ more)).1.verdict worse ∧ worse.code = 503) ∧
    (hurried.Tells tagged .cancelled late ∧ late.code = 599 ∧ late.body = [
        "\x7b\"status\":\"Unhealthy\",\"totalDuration\":\"00:00:00\",\"entries\":\x7b\"endpoint\":",
        "\x7b\"data\":\x7b\x7d,\"description\":\"evaluation cancelled before all checks completed\",",
        "\"duration\":\"00:00:00\",\"exception\":\"evaluation cancelled before all checks completed\",",
        "\"status\":\"Unhealthy\",\"tags\":[]\x7d\x7d\x7d"].flatMap String.toList) ∧
    coded.asked [("tag", "ready")] = coded.asked tagged ∧
    ∀ r, r ∈ coded.asked (tagged ++ more) ↔ r ∈ coded.asked tagged ∨ r ∈ coded.asked more := by
  intro tagged more degraded worse late
  obtain ⟨hdegraded, -, hsame, hunion, -, htells⟩ := health_end_to_end coded {} 0 tagged
  obtain ⟨hworse, -, -, -, -, htells'⟩ := health_end_to_end coded {} 0 (tagged ++ more)
  obtain ⟨hlate, -, -, -, -, htells''⟩ := health_end_to_end hurried {} 0 tagged
  have hdegraded : degraded = _ := congrArg Prod.snd (hdegraded _ rfl rfl)
  have hworse : worse = _ := congrArg Prod.snd (hworse _ rfl rfl)
  have hlate : late = _ := congrArg Prod.snd (hlate _ rfl rfl)
  refine ⟨⟨?_, by decide +kernel, by decide +kernel⟩, ⟨?_, by decide +kernel⟩,
    ⟨?_, by decide +kernel, by decide +kernel⟩, (hsame _ ?_).1, ?_⟩
  · rw [hdegraded]
    exact htells
  · rw [hworse]
    exact htells'
  · rw [hlate]
    exact htells''
  · rintro p (h | h) <;> simp [tagged, Prod.ext_iff, h]
  · exact hunion _ ⟨_, List.mem_cons_self, .inr rfl⟩ ⟨_, List.mem_cons_self, .inl rfl⟩

end Service

end HealthWatch
