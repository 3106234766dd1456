import HealthWatch.Proofs.Configuration
import HealthWatch.Proofs.Deadlines
import HealthWatch.Startup
/-!
# A check that hangs fails alone

The settings see to it that the deadline of evaluations is longer than the default timeout of checks,
but nothing compares it with the timeouts that the manifest gives. `hanging_fails_alone_iff` says what
follows: no probe can take an evaluation down with it exactly when these timeouts are shorter than the
deadline, too.
-/

namespace HealthWatch

/-! ## The same checks with other probes -/

/-- A probe that never answers. -/
def Probe.hanging : Probe where
  call _ _ := ⟨none, .panic .other⟩

/-- The check with another probe. -/
def Registration.withProbe (r : Registration) (probe : Probe) : Registration :=
  { r with source := .shared probe }

namespace Registry

variable {g : Registry} {behave : String → Probe} {s : Selector} {r : Registration}

/-- The same checks with probes that behave in some other way. -/
def withProbes (g : Registry) (behave : String → Probe) : Registry where
  registrations := g.registrations.map fun r => r.withProbe (behave r.name)
  distinct := by
    rw [List.map_map]
    exact g.distinct
  notBlank := by
    intro r hr
    obtain ⟨r', hr', rfl⟩ := List.mem_map.1 hr
    exact g.notBlank r' hr'

theorem mem_select_withProbes : r ∈ (g.withProbes behave).select s ↔
    ∃ r' ∈ g.select s, r'.withProbe (behave r'.name) = r := by
  show r ∈ (g.registrations.map fun r => r.withProbe (behave r.name)).filter _ ↔ _
  rw [List.filter_map, List.mem_map]
  exact Iff.rfl

/-- The probe of a check in a registry that shares all probes. -/
def sharedProbe (g : Registry) (name : String) : Probe :=
  match g.get? name with
  | some { source := .shared probe, .. } => probe
  | _ => .hanging

/-- How the probes of a registry behave is one way in which they may behave. -/
theorem withProbes_sharedProbe (h : ∀ r ∈ g.registrations, ∃ probe, r.source = .shared probe) :
    g.withProbes g.sharedProbe = g := by
  have hsame : ∀ r ∈ g.registrations, r.withProbe (g.sharedProbe r.name) = r := by
    intro r hr
    obtain ⟨probe, hprobe⟩ := h r hr
    have hfound : g.sharedProbe r.name = probe := by
      rw [sharedProbe, get?_of_mem hr]
      cases r
      cases hprobe
      rfl
    rw [hfound, Registration.withProbe, ← hprobe]
  have hregs : (g.withProbes g.sharedProbe).registrations = g.registrations :=
    (List.map_congr_left hsame).trans (List.map_id _)
  exact ext_registrations hregs

end Registry

/-! ## Timeouts of an accepted configuration -/

namespace Evaluator

variable {e : Evaluator} {counts : CallCounts} {s : Selector} {r : Registration} {b : Nat}

/-- A check with a timeout ends by itself, at the latest when its timeout fires. -/
theorem ownEnd_le_timeout (counts : CallCounts) {t : Duration} (ht : e.timeout r = some t) :
    ∃ n ≤ t.ceilMillis, e.ownEnd counts r = some n := by
  cases hp : r.source.probe e.services with
  | error fault => exact ⟨0, Nat.zero_le _, by simp only [ownEnd, hp]⟩
  | ok probe =>
    rw [CheckCourse.ownEnd_of_probe hp, ht]
    cases (probe.call (counts.next r) r.context).endsAfter with
    | none => exact ⟨t.ceilMillis, Nat.le_refl _, rfl⟩
    | some i => exact ⟨min i t.ceilMillis, Nat.min_le_right _ _, rfl⟩

/-- Checks that all end by themselves before an instant have all ended then. -/
theorem lastOwnEnd_lt (hb : 0 < b)
    (h : ∀ r ∈ e.registry.select s, ∃ n < b, e.ownEnd counts r = some n) :
    ∃ f < b, e.lastOwnEnd counts s = some f := by
  obtain ⟨f, hf, hlast⟩ := @latest_le ((e.registry.select s).map (e.ownEnd counts)) (b - 1) (by
    intro a ha
    obtain ⟨r, hr, rfl⟩ := List.mem_map.1 ha
    obtain ⟨n, hn, hend⟩ := h r hr
    exact ⟨n, Nat.le_sub_one_of_lt hn, hend⟩)
  exact ⟨f, Nat.lt_of_le_sub_one hb hf, hlast⟩

theorem ownEnd_of_hanging (hr : r.source = .shared .hanging) :
    e.ownEnd counts r = firesAt (e.timeout r) := by
  have hp : r.source.probe e.services = .ok .hanging := by rw [hr]; rfl
  rw [CheckCourse.ownEnd_of_probe hp]
  rfl

end Evaluator

/-! ## Evaluations with the deadline of the settings -/

/-- What an evaluation of some checks comes to, when their probes behave in some way. -/
def Settings.verdict (st : Settings) (g : Registry) (behave : String → Probe) (counts : CallCounts)
    (now : Int) (s : Selector) : Verdict :=
  ((st.evaluator (g.withProbes behave)).evaluate counts now s
    { deadline := some st.evaluationTimeout }).1.verdict

section Accepted
variable {env : Environment} {st : Settings} {m : Manifest} {net : Network} {g : Registry}
  {s : Selector} {behave : String → Probe} {counts : CallCounts} {now : Int} {r : Registration}
  {report : Report}

/-- The timeout of a check, its own or the default, fires before the deadline. -/
theorem exists_short_timeout (hst : Settings.read env = .ok st) (hg : m.registry net = .ok g)
    (hr : r ∈ g.select s) (h : ∀ t ∈ r.timeout, t < st.evaluationTimeout) (probe : Probe) :
    ∃ t, (st.evaluator (g.withProbes behave)).timeout (r.withProbe probe) = some t ∧
      t.ceilMillis < st.evaluationTimeout.ceilMillis := by
  show ∃ t, (r.timeout <|> some st.defaultTimeout) = some t ∧ _
  cases ht : r.timeout with
  | none =>
    refine ⟨st.defaultTimeout, rfl, ?_⟩
    rw [(Settings.wholeMillis_defaultTimeout hst).ceilMillis_lt_iff]
    exact Settings.defaultTimeout_lt hst
  | some t =>
    obtain ⟨item, -, hitem⟩ := Manifest.registration_of_mem hg (List.mem_filter.1 hr).1
    refine ⟨t, rfl, ?_⟩
    rw [(CheckItem.wholeMillis_timeout hitem t ht).ceilMillis_lt_iff]
    exact h t ht

/-- Timeouts that are shorter than the deadline let every evaluation complete. -/
theorem completed_of_short_timeouts (hst : Settings.read env = .ok st)
    (hg : m.registry net = .ok g) (h : ∀ r ∈ g.select s, ∀ t ∈ r.timeout, t < st.evaluationTimeout) :
    ∃ report, st.verdict g behave counts now s = .completed report := by
  have hends : ∀ r ∈ (st.evaluator (g.withProbes behave)).registry.select s,
      ∃ n < st.evaluationTimeout.ceilMillis,
        (st.evaluator (g.withProbes behave)).ownEnd counts r = some n := by
    intro r hr
    obtain ⟨r', hr', rfl⟩ := Registry.mem_select_withProbes.1 hr
    obtain ⟨t, ht, hlt⟩ := exists_short_timeout hst hg hr' (h r' hr') (behave r'.name)
    obtain ⟨n, hn, hend⟩ := Evaluator.ownEnd_le_timeout counts ht
    exact ⟨n, Nat.lt_of_le_of_lt hn hlt, hend⟩
  have hpos : 0 < st.evaluationTimeout.ceilMillis :=
    Nat.zero_lt_of_lt ((Settings.wholeMillis_defaultTimeout hst).ceilMillis_lt_iff.2
      (Settings.defaultTimeout_lt hst))
  obtain ⟨f, hf, hlast⟩ := Evaluator.lastOwnEnd_lt hpos hends
  refine Evaluator.completed_iff_ownEnd.2 ⟨f, hlast, rfl, ?_, ?_⟩
  · intro d hd
    cases hd
    exact hf
  · intro c hc
    cases hc

/-- When all probes hang, an evaluation completes only if all timeouts are shorter than the
deadline. -/
theorem short_timeouts_of_completed
    (h : st.verdict g (fun _ => .hanging) counts now s = .completed report) :
    ∀ r ∈ g.select s, ∀ t ∈ r.timeout, t < st.evaluationTimeout := by
  obtain ⟨f, hlast, hleave⟩ := Evaluator.completed_iff_ownEnd.1 ⟨report, h⟩
  intro r hr t ht
  have hmem : r.withProbe .hanging ∈
      (st.evaluator (g.withProbes fun _ => .hanging)).registry.select s :=
    Registry.mem_select_withProbes.2 ⟨r, hr, rfl⟩
  obtain ⟨n, hn, hend⟩ := Evaluator.le_of_lastOwnEnd hlast hmem
  have htimeout : (st.evaluator (g.withProbes fun _ => .hanging)).timeout
      (r.withProbe .hanging) = some t := by
    show (r.timeout <|> some st.defaultTimeout) = some t
    rw [Option.mem_def.1 ht]
    rfl
  rw [Evaluator.ownEnd_of_hanging rfl, htimeout] at hend
  cases hend
  have hlt : f < st.evaluationTimeout.ceilMillis := hleave.deadline _ rfl
  have hfires := Duration.lt_ceilMillis_iff.1 (Nat.lt_of_le_of_lt hn hlt)
  exact Nat.lt_of_le_of_lt (Duration.ceilMillis_le_iff.1 (Nat.le_refl _)) hfires

/-- What a check leaves in the report depends on its own probe only. -/
theorem entry_of_behave (h : st.verdict g behave counts now s = .completed report)
    (hr : r ∈ g.select s) : ∃ n,
      (st.evaluator .empty).ownEnd counts (r.withProbe (behave r.name)) = some n ∧
      report.entries.get? r.name = some
        { (st.evaluator .empty).ownOutcome counts (r.withProbe (behave r.name)) with
          duration := .ofMillis n, tags := r.tags } := by
  have hmem : r.withProbe (behave r.name) ∈
      (st.evaluator (g.withProbes behave)).registry.select s :=
    Registry.mem_select_withProbes.2 ⟨r, hr, rfl⟩
  have hkept : (st.evaluator (g.withProbes behave)).losesTask (r.withProbe (behave r.name)) =
      false := Bool.and_false _
  obtain ⟨n, hend, hget⟩ :=
    @Evaluator.entry_of_completed (st.evaluator (g.withProbes behave)) _ _ _ _ _ _ h hmem hkept
  exact ⟨n, hend, hget⟩

end Accepted

/-- Under accepted settings, and over the registry of an accepted manifest, the evaluations of some
checks complete however the probes behave exactly when the timeouts of these checks are shorter than
the deadline. In an evaluation that completes, every entry is the work of one probe, and a check that
exceeds its timeout fails with it. -/
theorem Settings.hanging_fails_alone_iff {env : Environment} {st : Settings} {m : Manifest}
    {net : Network} {g : Registry} (hst : Settings.read env = .ok st)
    (hg : m.registry net = .ok g) (s : Selector) :
    g.withProbes g.sharedProbe = g ∧
      ((∀ behave counts now, ∃ report, st.verdict g behave counts now s = .completed report) ↔
        ∀ r ∈ g.select s, ∀ t ∈ r.timeout, t < st.evaluationTimeout) ∧
      ∀ behave counts now report, st.verdict g behave counts now s = .completed report →
        ∀ r ∈ g.select s,
          (∀ behave' report', st.verdict g behave' counts now s = .completed report' →
            behave' r.name = behave r.name →
            report'.entries.get? r.name = report.entries.get? r.name) ∧
          ∀ t, (st.evaluator g).RunsOut counts (r.withProbe (behave r.name)) t →
            ∃ entry, report.entries.get? r.name = some entry ∧
              entry.status = r.failureStatus ∧
              entry.error = some (ProbeFailure.timeout t).message ∧
              entry.duration = .ofMillis t.ceilMillis := by
  refine ⟨?_, ⟨?_, ?_⟩, ?_⟩
  · refine Registry.withProbes_sharedProbe fun r hr => ?_
    obtain ⟨item, -, hitem⟩ := Manifest.registration_of_mem hg hr
    obtain ⟨probe, -, hsource, -⟩ := CheckItem.registration_ok hitem
    exact ⟨probe, hsource⟩
  · -- The worst that probes can do is to hang, all of them.
    intro h
    obtain ⟨report, hv⟩ := h (fun _ => .hanging) .empty 0
    exact short_timeouts_of_completed hv
  · intro h behave counts now
    exact completed_of_short_timeouts hst hg h
  · intro behave counts now report hv r hr
    obtain ⟨n, hend, hget⟩ := entry_of_behave hv hr
    refine ⟨?_, ?_⟩
    · intro behave' report' hv' hsame
      obtain ⟨n', hend', hget'⟩ := entry_of_behave hv' hr
      rw [hsame, hend] at hend'
      cases hend'
      rw [hget', hget, hsame]
    · intro t ht
      have hout : (st.evaluator .empty).RunsOut counts (r.withProbe (behave r.name)) t :=
        ⟨ht.timeout, ht.call⟩
      rw [Evaluator.ownEnd_of_runsOut hout] at hend
      cases hend
      rw [Evaluator.ownOutcome_of_runsOut hout] at hget
      exact ⟨_, hget, rfl, rfl, rfl⟩

/-- A manifest of one check, which has a timeout of its own. -/
def Manifest.withTimeout (timeout : String) : Manifest where
  checks := [{
    name := "slow", timeout := some timeout, failureStatus := none, tags := []
    probe := .tcp "db" 5432 }]

/-- A network that does not answer. -/
def Network.silent : Network where
  send _ _ := { reply := .failed "", after := none }
  connect _ _ _ := { result := .error "", after := none }
  resolve _ _ := { result := .error "", after := none }

/-- With the default settings a check may take 5 s, though it does not answer. -/
theorem Settings.hanging_fails_alone_iff_default : ∃ st g,
    Settings.read (fun _ => none) = .ok st ∧
      (Manifest.withTimeout "5s").registry .silent = .ok g ∧
      ∃ report, st.verdict g g.sharedProbe .empty 0 .all = .completed report := by
  refine ⟨_, _, rfl, rfl, ?_⟩
  obtain ⟨-, hiff, -⟩ :=
    @hanging_fails_alone_iff (fun _ => none) _ (.withTimeout "5s") .silent _ rfl rfl .all
  refine hiff.2 ?_ _ _ _
  decide +kernel

/-- With the default settings a check that may take as long as the deadline takes the evaluation down
when it does not answer. -/
theorem Settings.hanging_cancels_default : ∃ st g,
    Settings.read (fun _ => none) = .ok st ∧
      (Manifest.withTimeout "35s").registry .silent = .ok g ∧
      ((st.evaluator g).evaluate .empty 0 .all
        { deadline := some st.evaluationTimeout }).1.verdict = .cancelled := by
  refine ⟨_, _, rfl, rfl, Verdict.isCancelled_iff.1 ?_⟩
  decide +kernel

end HealthWatch
