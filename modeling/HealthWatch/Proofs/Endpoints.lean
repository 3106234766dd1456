import HealthWatch.Proofs.Deadlines
import HealthWatch.Proofs.Manifests
/-!
# What a check says of an endpoint

A request comes to a response that is received in time, or to none. `Evaluator.ownOutcome_of_receives` and
`Evaluator.ownOutcome_of_silence` say what the check then reports by itself, and
`Evaluator.entry_tells_response` what stands in the report about a check of the manifest.
-/

namespace HealthWatch

/-- What the manifest asks of an endpoint, and what it expects: by default any code that means success. -/
def ProbeItem.target? : ProbeItem → Option HttpTarget
  | .http url method expectedStatus expectedContent headers => some {
      url
      method := (method.map fun m => String.ofList (m.toList.map Char.toUpper)).getD "GET"
      headers := headers.toList
      expectedStatus := expectedStatus.getD (200, 299)
      expectedContent }
  | .tcp _ _ => none
  | .dns _ _ => none

theorem Outcome.get?_withData (o : Outcome) (name : String) (value : Datum) :
    (o.withData name value).data.get? name = some value := by
  rw [withData, NameMap.get?_insert, if_pos rfl]

namespace HttpTarget

variable {p : HttpTarget} {ctx : Context} {code : Nat} {body : Option String} {x : HttpExchange}
  {timeout : Option Duration}

/-- A response is as it is expected: its code lies in the range, and its body is the content. -/
structure Meets (p : HttpTarget) (code : Nat) (body : Option String) : Prop where
  low : p.expectedStatus.1 ≤ code
  high : code ≤ p.expectedStatus.2
  content : ∀ expected ∈ p.expectedContent, body = some expected

/-- A response comes before a timeout, with the whole of its body if that is read. -/
structure Receives (p : HttpTarget) (x : HttpExchange) (timeout : Option Duration) (code : Nat)
    (body : Option String) : Prop where
  reply : x.reply = .response code body
  inTime : ∃ n, x.finishedAfter p.readsBody = some n ∧ ∀ t ∈ timeout, n ≤ t.ceilMillis
  whole : p.readsBody code = true → ∃ text, body = some text

/-- A response that is complete in time is received, whatever is expected of it. -/
theorem receives_of_complete {text : String} {n m : Nat} (hreply : x.reply = .response code (some text))
    (hafter : x.after = some n) (hbody : x.bodyAfter = some m)
    (hin : ∀ t ∈ timeout, n + m ≤ t.ceilMillis) : p.Receives x timeout code (some text) := by
  refine ⟨hreply, ?_, fun _ => ⟨text, rfl⟩⟩
  unfold HttpExchange.finishedAfter
  rw [hreply, hafter, hbody]
  dsimp only
  split
  · exact ⟨n + m, rfl, hin⟩
  · exact ⟨n, rfl, fun t ht => Nat.le_trans (Nat.le_add_right n m) (hin t ht)⟩

/-- Nothing is received of a request that fails. -/
theorem not_receives_of_failed {detail : String} (h : x.reply = .failed detail) :
    ¬ p.Receives x timeout code body := by
  intro hreceives
  rw [hreceives.reply] at h
  cases h

/-! ## The verdict -/

theorem acceptsCode_iff : p.acceptsCode code = true ↔
    p.expectedStatus.1 ≤ code ∧ code ≤ p.expectedStatus.2 := by
  rw [acceptsCode, Bool.and_eq_true, decide_eq_true_eq, decide_eq_true_eq]

theorem judge_of_meets (h : p.Meets code body) : p.judge ctx code body =
    .outcome (({ status := .healthy } : Outcome).withData "statusCode" (.ofNat code)) := by
  have haccepts : p.acceptsCode code = true := acceptsCode_iff.2 ⟨h.low, h.high⟩
  unfold judge
  rw [haccepts]
  cases hcontent : p.expectedContent with
  | none => rfl
  | some expected =>
    rw [h.content expected hcontent]
    exact if_pos rfl

/-- A response that is read and is not as expected is a failure with a description. -/
theorem judge_of_not_meets (h : ¬ p.Meets code body)
    (hwhole : p.readsBody code = true → ∃ text, body = some text) :
    ∃ description, p.judge ctx code body =
      .outcome ((ctx.failure description).withData "statusCode" (.ofNat code)) := by
  unfold judge
  by_cases haccepts : p.acceptsCode code = true
  · rw [haccepts]
    obtain ⟨hlow, hhigh⟩ := acceptsCode_iff.1 haccepts
    cases hcontent : p.expectedContent with
    | none =>
      refine absurd ⟨hlow, hhigh, fun expected hexpected => ?_⟩ h
      rw [hcontent] at hexpected
      cases hexpected
    | some expected =>
      obtain ⟨text, rfl⟩ := hwhole (by rw [readsBody, haccepts, hcontent]; rfl)
      have hne : text ≠ expected := by
        rintro rfl
        refine h ⟨hlow, hhigh, fun expected hexpected => ?_⟩
        rw [← hexpected, hcontent]
      exact ⟨_, if_neg hne⟩
  · rw [Bool.not_eq_true] at haccepts
    rw [haccepts]
    exact ⟨_, rfl⟩

theorem judge_of_cut (h : p.readsBody code = true) :
    p.judge ctx code none = .error (.http "the body ended early") := by
  rw [readsBody, Bool.and_eq_true, Option.isSome_iff_exists] at h
  obtain ⟨haccepts, expected, hcontent⟩ := h
  unfold judge
  rw [haccepts, hcontent]
  rfl

/-- A call ends with the exchange, as far as that is waited for, and as the reply has it. -/
theorem call_eq (net : Network) (number : Nat) (h : ctx.cancelled = false) :
    p.call net number ctx =
      { endsAfter := (net.send number p.request).finishedAfter p.readsBody
        ending := match (net.send number p.request).reply with
          | .failed detail => .error (.http detail)
          | .response code body => p.judge ctx code body } := by
  unfold call HttpExchange.finishedAfter
  rw [h, if_neg Bool.false_ne_true]
  dsimp only
  cases (net.send number p.request).reply <;> rfl

end HttpTarget

/-! ## What the check reports -/

namespace Evaluator

variable {e : Evaluator} {counts : CallCounts} {r : Registration} {p : HttpTarget} {net : Network}
  {code : Nat} {body : Option String}

/-- A check whose call ends before its timeout reports how the call ended. -/
theorem ownOutcome_of_call {probe : Probe} {n : Nat} (hp : r.source.probe e.services = .ok probe)
    (hn : (probe.call (counts.next r) r.context).endsAfter = some n)
    (hin : ∀ t ∈ e.timeout r, n ≤ t.ceilMillis) : e.ownOutcome counts r =
      (probe.call (counts.next r) r.context).ending.toOutcome r.failureStatus := by
  simp only [ownOutcome, hp]
  cases ht : e.timeout r with
  | none => rfl
  | some t =>
    have hnot : CheckCourse.timesOut (some n) (some t.ceilMillis) = false :=
      decide_eq_false (Nat.not_lt.2 (hin t ht))
    dsimp only
    rw [hn, hnot, if_neg Bool.false_ne_true]

/-- A check that ends by itself runs out of time, or its call ends before its timeout. -/
theorem runsOut_or_ends {probe : Probe} {m : Nat} (hp : r.source.probe e.services = .ok probe)
    (hm : e.ownEnd counts r = some m) : (∃ t, e.RunsOut counts r t) ∨
      ∃ n, (probe.call (counts.next r) r.context).endsAfter = some n ∧
        ∀ t ∈ e.timeout r, n ≤ t.ceilMillis := by
  rw [CheckCourse.ownEnd_of_probe hp] at hm
  cases hn : (probe.call (counts.next r) r.context).endsAfter with
  | none =>
    rw [hn] at hm
    cases ht : e.timeout r with
    | none =>
      rw [ht] at hm
      cases hm
    | some t =>
      refine .inl ⟨t, ht, probe, hp, fun n h => ?_⟩
      rw [hn] at h
      cases h
  | some n =>
    cases ht : e.timeout r with
    | none => exact .inr ⟨n, rfl, fun _ h => (nomatch h)⟩
    | some t =>
      by_cases hle : n ≤ t.ceilMillis
      · refine .inr ⟨n, rfl, fun t' ht' => ?_⟩
        obtain rfl := Option.some.inj ht'
        exact hle
      · refine .inl ⟨t, ht, probe, hp, fun n' h => ?_⟩
        obtain rfl := Option.some.inj (hn.symm.trans h)
        exact Nat.lt_of_not_le hle

theorem ownOutcome_of_receives (hsource : r.source = .shared (p.probe net))
    (h : p.Receives (net.send (counts.next r) p.request) (e.timeout r) code body) :
    e.ownOutcome counts r = (p.judge r.context code body).toOutcome r.failureStatus := by
  have hp : r.source.probe e.services = .ok (p.probe net) := by rw [hsource]; rfl
  have hcall := p.call_eq net (counts.next r) (show r.context.cancelled = false from rfl)
  rw [h.reply] at hcall
  obtain ⟨n, hn, hin⟩ := h.inTime
  have hends : ((p.probe net).call (counts.next r) r.context).endsAfter = some n :=
    (congrArg Call.endsAfter hcall).trans hn
  rw [ownOutcome_of_call hp hends hin]
  exact congrArg (Ending.toOutcome r.failureStatus) (congrArg Call.ending hcall)

/-- A check that receives no response reports an error. -/
theorem ownOutcome_of_silence {m : Nat} (hsource : r.source = .shared (p.probe net))
    (hm : e.ownEnd counts r = some m)
    (h : ∀ code body, ¬ p.Receives (net.send (counts.next r) p.request) (e.timeout r) code body) :
    ∃ failure : ProbeFailure, e.ownOutcome counts r = failure.outcome r.failureStatus := by
  have hp : r.source.probe e.services = .ok (p.probe net) := by rw [hsource]; rfl
  have hcall := p.call_eq net (counts.next r) (show r.context.cancelled = false from rfl)
  obtain ⟨t, hrunsOut⟩ | ⟨n, hn, hin⟩ := runsOut_or_ends hp hm
  · exact ⟨_, ownOutcome_of_runsOut hrunsOut⟩
  · rw [ownOutcome_of_call hp hn hin]
    show ∃ failure : ProbeFailure,
      (p.call net (counts.next r) r.context).ending.toOutcome r.failureStatus = _
    have hfinished := (congrArg Call.endsAfter hcall).symm.trans hn
    cases hreply : (net.send (counts.next r) p.request).reply with
    | failed detail =>
      rw [hreply] at hcall
      exact ⟨.http detail, by rw [hcall]; rfl⟩
    | response code body =>
      rw [hreply] at hcall
      -- The response is in time, so it can only lack its body.
      have hcut : p.readsBody code = true ∧ body = none := by
        by_contra hcut
        rw [not_and] at hcut
        exact h code body ⟨hreply, ⟨n, hfinished, hin⟩,
          fun hreads => Option.ne_none_iff_exists'.1 (hcut hreads)⟩
      obtain ⟨hreads, rfl⟩ := hcut
      refine ⟨.http "the body ended early", ?_⟩
      rw [hcall]
      dsimp only
      rw [HttpTarget.judge_of_cut hreads]
      rfl

end Evaluator

/-! ## Checks of the manifest -/

namespace CheckItem

variable {item : CheckItem} {net : Network} {r : Registration} {p : HttpTarget}

theorem readMethod_eq_ok {method m : Option String} (h : item.readMethod method = .ok m) :
    m = method.map fun s => String.ofList (s.toList.map Char.toUpper) := by
  unfold readMethod readMethod? at h
  split at h
  · exact (Except.ok.inj h).symm
  · split at h
    · next hread =>
      dsimp only at hread
      split at hread
      · rw [← Except.ok.inj h, ← hread]
        rfl
      · cases hread
    · cases h

theorem readExpectedStatus_eq_ok {range range' : Option (Nat × Nat)}
    (h : item.readExpectedStatus range = .ok range') : range' = range := by
  unfold readExpectedStatus at h
  split at h
  · exact (Except.ok.inj h).symm
  · split at h
    · exact (Except.ok.inj h).symm
    · cases h

/-- The probe of an accepted check asks and expects what the manifest says. -/
theorem source_of_target (hp : item.probe.target? = some p) (h : item.registration net = .ok r) :
    r.source = .shared (p.probe net) := by
  obtain ⟨probe, hprobe, hsource, -⟩ := registration_ok h
  rw [hsource]
  unfold readProbe at hprobe
  split at hprobe
  · next url method range content headers hitem =>
    rw [hitem] at hp
    obtain rfl := Option.some.inj hp
    simp only [bind_eq_ok_iff] at hprobe
    obtain ⟨m, hm, range', hrange, hprobe⟩ := hprobe
    rw [← Except.ok.inj hprobe, readMethod_eq_ok hm, readExpectedStatus_eq_ok hrange]
  · next hitem =>
    rw [hitem] at hp
    cases hp
  · next hitem =>
    rw [hitem] at hp
    cases hp

end CheckItem

def CheckItem.once : CheckItem where
  name := "api"
  timeout := some "5s"
  failureStatus := some "degraded"
  tags := []
  probe := .http "http://api/" none (some (200, 204)) (some "") .empty

def HttpTarget.once : HttpTarget where
  url := "http://api/"
  expectedStatus := (200, 204)
  expectedContent := some ""

def Network.once : Network :=
  { Network.isolated with
    send := fun number _ =>
      if number = 1 then { reply := .response 204 (some ""), after := some 3, bodyAfter := some 1 }
      else { reply := .failed "connection refused" } }

def Registration.once : Registration where
  name := "api"
  source := .shared (HttpTarget.once.probe .once)
  failureStatus := .degraded
  timeout := some (.ofSecs 5)

def Evaluator.once : Evaluator where
  registry := ⟨[.once], by decide, by decide⟩

end HealthWatch
