import HealthWatch.Publisher
/-!
# What the exposition shows

`record_eq_showing` sums up `Metrics.record`: as long as the checks with series are those that are
known, the metrics after a report show this report and nothing else. `tracked_showing` brings the
proviso about again, so `ofReports_snoc` says the same of every run: of what came before the last report
only the number of reports is left. `exposition_of_last` reads this off the series and off their text.
-/

namespace HealthWatch

/-! ## Writing and removing several names -/

namespace NameMap

variable {α β : Type} {n : String}

theorem get?_foldl_erase (names : List String) (m : NameMap α) :
    (names.foldl erase m).get? n = if n ∈ names then none else m.get? n := by
  induction names generalizing m with
  | nil => simp
  | cons k ks ih =>
    rw [List.foldl_cons, ih, get?_erase]
    by_cases hk : n = k <;> simp [hk]

theorem get?_foldl_insert {l : List (String × α)} (hl : l.Pairwise fun a b => a.1 < b.1)
    (f : α → β) (m : NameMap β) :
    (l.foldl (fun m p => m.insert p.1 (f p.2)) m).get? n = ((l.lookup n).map f <|> m.get? n) := by
  induction l generalizing m with
  | nil => simp
  | cons p ps ih =>
    obtain ⟨hp, hps⟩ := List.pairwise_cons.1 hl
    rw [List.foldl_cons, ih hps, get?_insert, List.lookup_cons]
    by_cases hn : n = p.1
    · subst hn
      -- A later pair of the same name would replace this one, but there is none.
      have hnone : ps.lookup p.1 = none := by
        rw [Option.eq_none_iff_forall_not_mem]
        intro v hv
        exact String.lt_irrefl _ (hp (p.1, v) ((lookup_eq_some_iff hps).1 hv))
      simp [hnone]
    · have hne : (n == p.1) = false := by simpa using hn
      simp [hn, hne]

/-- Writing an entry for each name of a map, over a map that has no other names. -/
theorem foldl_insert_eq_map (entries : NameMap α) (f : α → β) {m : NameMap β}
    (hm : ∀ n, (m.get? n).isSome → (entries.get? n).isSome) :
    entries.toList.foldl (fun m p => m.insert p.1 (f p.2)) m = entries.map fun _ a => f a := by
  refine ext fun n => ?_
  rw [get?_foldl_insert entries.sorted, get?_map]
  show ((entries.get? n).map f <|> m.get? n) = _
  cases he : entries.get? n with
  | some a => rfl
  | none =>
    cases hn : m.get? n with
    | none => rfl
    | some b => simpa [he] using hm n (by rw [hn]; rfl)

end NameMap

namespace Metrics

variable {m : Metrics} {r : Report}

/-! ## One report -/

/-- The checks with series, in both families, are those that are known. -/
structure Tracked (m : Metrics) : Prop where
  statuses : ∀ n, (m.statuses.get? n).isSome ↔ n ∈ m.known
  durations : ∀ n, (m.durations.get? n).isSome ↔ n ∈ m.known

/-- The metrics that show one report, the last of `count`. -/
def showing (r : Report) (count : Nat) : Metrics where
  statuses := r.entries.map fun _ o => o.status.gauge
  durations := r.entries.map fun _ o => o.duration.seconds
  known := .ofList r.entries.keys
  overall := r.overall.gauge
  total := r.total.seconds
  evaluations := count

theorem tracked_fresh : Tracked fresh where
  statuses _ := by simp [fresh, NameSet.mem_def, NameSet.empty]
  durations _ := by simp [fresh, NameSet.mem_def, NameSet.empty]

theorem tracked_showing (r : Report) (count : Nat) : Tracked (showing r count) where
  statuses n := by
    rw [showing, NameSet.mem_ofList, NameMap.mem_keys_iff, NameMap.get?_map, Option.isSome_map]
  durations n := by
    rw [showing, NameSet.mem_ofList, NameMap.mem_keys_iff, NameMap.get?_map, Option.isSome_map]

theorem foldl_drop_eq (names : List String) (m : Metrics) : names.foldl drop m =
    { m with
      statuses := names.foldl NameMap.erase m.statuses
      durations := names.foldl NameMap.erase m.durations } := by
  induction names generalizing m with
  | nil => rfl
  | cons k ks ih => exact ih (m.drop k)

theorem foldl_set_eq (pairs : List (String × Outcome)) (m : Metrics) :
    pairs.foldl (fun m p => m.set p.1 p.2) m =
      { m with
        statuses := pairs.foldl (fun s p => s.insert p.1 p.2.status.gauge) m.statuses
        durations := pairs.foldl (fun s p => s.insert p.1 p.2.duration.seconds) m.durations
        known := m.known.insertMany (pairs.map (·.1)) } := by
  induction pairs generalizing m with
  | nil => rfl
  | cons p ps ih => exact ih (m.set p.1 p.2)

/-- What is left of a family when the known names without an entry are removed has an entry. -/
theorem isSome_of_not_stale {α : Type} {known : NameSet} {series : NameMap α}
    (h : ∀ n, (series.get? n).isSome ↔ n ∈ known) (r : Report) (n : String)
    (hn : (((known.toList.filter fun name => !r.entries.contains name).foldl NameMap.erase
      series).get? n).isSome) : (r.entries.get? n).isSome := by
  rw [NameMap.get?_foldl_erase] at hn
  split at hn
  · cases hn
  · next hstale =>
    have hknown : n ∈ known.toList := (h n).1 hn
    rw [List.mem_filter, not_and] at hstale
    simpa [NameMap.contains, Option.isSome_iff_ne_none] using hstale hknown

/-- Recording a report leaves nothing of the reports before it but their number. -/
theorem record_eq_showing (hm : m.Tracked) (r : Report) :
    m.record r = showing r (m.evaluations + 1) := by
  unfold record
  simp only [foldl_drop_eq, foldl_set_eq]
  rw [NameMap.foldl_insert_eq_map r.entries (·.status.gauge) (isSome_of_not_stale hm.statuses r),
    NameMap.foldl_insert_eq_map r.entries (·.duration.seconds) (isSome_of_not_stale hm.durations r)]
  rfl

theorem Tracked.record (hm : m.Tracked) (r : Report) : (m.record r).Tracked :=
  record_eq_showing hm r ▸ tracked_showing r _

/-! ## Runs -/

/-- After any reports, what is shown is the last of them. -/
theorem Tracked.foldl_record_snoc (hm : m.Tracked) (earlier : List Report) (r : Report) :
    (earlier ++ [r]).foldl Metrics.record m = showing r (m.evaluations + earlier.length + 1) := by
  induction earlier generalizing m with
  | nil => exact record_eq_showing hm r
  | cons e es ih =>
    rw [List.cons_append, List.foldl_cons, ih (hm.record e), record_eq_showing hm e, List.length_cons]
    show showing r (m.evaluations + 1 + es.length + 1) = _
    rw [Nat.add_right_comm m.evaluations 1 es.length]
    rfl

theorem ofReports_snoc (earlier : List Report) (r : Report) :
    ofReports (earlier ++ [r]) = showing r (earlier.length + 1) := by
  have hrun := tracked_fresh.foldl_record_snoc earlier r
  rwa [show fresh.evaluations = 0 from rfl, Nat.zero_add] at hrun

/-! ## Texts -/

/-- The families of the checks, with one series for each entry of a report. -/
def checkSeries (r : Report) : List Char :=
  checkFamily "healthcheck" "Health check status (0=Unhealthy, 1=Degraded, 2=Healthy)"
    (r.entries.toList.map fun p => (p.1, Numeral.decimal p.2.status.gauge)) ++
  checkFamily "healthcheck_duration_seconds" "Duration of the last health check run in seconds"
    (r.entries.toList.map fun p => (p.1, p.2.duration.seconds.plainText))

/-- The family of the counter of reports. -/
def counterSeries (count : Nat) : List Char :=
  plainFamily "healthcheck_evaluations_total" "Number of health reports recorded" "counter"
    (Numeral.decimal count)

/-- The families of a report as a whole. -/
def overallSeries (r : Report) : List Char :=
  plainFamily "healthcheck_overall" "Overall health status (0=Unhealthy, 1=Degraded, 2=Healthy)"
    "gauge" (Numeral.decimal r.overall.gauge) ++
  plainFamily "healthcheck_total_duration_seconds"
    "Wall-clock duration of the last evaluation in seconds" "gauge" r.total.seconds.plainText

theorem exposition_showing (r : Report) (count : Nat) :
    (showing r count).exposition = checkSeries r ++ counterSeries count ++ overallSeries r := by
  simp only [exposition, showing, NameMap.map, List.map_map, checkSeries, counterSeries,
    overallSeries, List.append_assoc]
  rfl

theorem keys_showing (r : Report) (count : Nat) :
    (showing r count).statuses.keys = r.entries.keys ∧
      (showing r count).durations.keys = r.entries.keys :=
  ⟨NameMap.keys_map .., NameMap.keys_map ..⟩

/-- After any reports the gauges of the checks are those of the last report: each of its entries has one series
in either family, with its own values, and no other check has any. So is the exposition, which is the text of
metrics to which only that report was told, apart from the number of reports. -/
theorem exposition_of_last (earlier : List Report) (r : Report) :
    ((ofReports (earlier ++ [r])).statuses.keys = r.entries.keys ∧
        (ofReports (earlier ++ [r])).durations.keys = r.entries.keys) ∧
      (∀ check, (ofReports (earlier ++ [r])).statuses.get? check =
          (r.entries.get? check).map (·.status.gauge) ∧
        (ofReports (earlier ++ [r])).durations.get? check =
          (r.entries.get? check).map (·.duration.seconds)) ∧
      (ofReports (earlier ++ [r])).exposition =
        { ofReports [r] with evaluations := earlier.length + 1 }.exposition ∧
      (ofReports (earlier ++ [r])).exposition =
        checkSeries r ++ counterSeries (earlier.length + 1) ++ overallSeries r := by
  have hlast := ofReports_snoc earlier r
  have halone := ofReports_snoc [] r
  rw [List.nil_append] at halone
  rw [hlast, halone]
  exact ⟨keys_showing r _, fun check => ⟨NameMap.get?_map .., NameMap.get?_map ..⟩, rfl,
    exposition_showing r _⟩

/-- Reports of two checks, of one of them, and of the other with a third. -/
def weekly : List Report × Report :=
  ([{ entries := .ofList [("cache", { status := .unhealthy, duration := .ofSecs 30 }),
        ("db", { status := .healthy, duration := .ofNanos 250_000_000 })]
      total := .ofSecs 30
      checkedAt := 0 },
    { entries := .ofList [("db", { status := .healthy })], total := .zero, checkedAt := 1 }],
  { entries := .ofList [("cache", { status := .degraded, duration := .ofNanos 1_500_000_000 }),
      ("queue \"a\"", { status := .healthy })]
    total := .ofNanos 1_500_000_000
    checkedAt := 2 })

/-- The check that is back has fresh values, and the one that is gone has no series. -/
theorem exposition_of_last_weekly :
    (ofReports (weekly.1 ++ [weekly.2])).statuses.keys = ["cache", "queue \"a\""] ∧
    (ofReports (weekly.1 ++ [weekly.2])).durations.keys = ["cache", "queue \"a\""] ∧
    (ofReports (weekly.1 ++ [weekly.2])).exposition =
      { ofReports [weekly.2] with evaluations := 3 }.exposition ∧
    (ofReports (weekly.1 ++ [weekly.2])).exposition =
      heading "healthcheck" "Health check status (0=Unhealthy, 1=Degraded, 2=Healthy)" "gauge" ++
        ("healthcheck\x7bhealthcheck=\"cache\"\x7d 1\n".toList ++
        "healthcheck\x7bhealthcheck=\"queue \\\"a\\\"\"\x7d 2\n".toList) ++
      (heading "healthcheck_duration_seconds" "Duration of the last health check run in seconds" "gauge" ++
        ("healthcheck_duration_seconds\x7bhealthcheck=\"cache\"\x7d 1.5\n".toList ++
        "healthcheck_duration_seconds\x7bhealthcheck=\"queue \\\"a\\\"\"\x7d 0\n".toList)) ++
      (heading "healthcheck_evaluations_total" "Number of health reports recorded" "counter" ++
        "healthcheck_evaluations_total 3\n".toList) ++
      (heading "healthcheck_overall" "Overall health status (0=Unhealthy, 1=Degraded, 2=Healthy)" "gauge" ++
        "healthcheck_overall 1\n".toList ++
      (heading "healthcheck_total_duration_seconds"
          "Wall-clock duration of the last evaluation in seconds" "gauge" ++
        "healthcheck_total_duration_seconds 1.5\n".toList)) ∧
    heading "healthcheck" "Health check status (0=Unhealthy, 1=Degraded, 2=Healthy)" "gauge" =
      ("# HELP healthcheck Health check status (0=Unhealthy, 1=Degraded, 2=Healthy)\n" ++
        "# TYPE healthcheck gauge\n").toList := by
  obtain ⟨⟨hstatuses, hdurations⟩, -, halone, htext⟩ := exposition_of_last weekly.1 weekly.2
  refine ⟨hstatuses, hdurations, halone, htext.trans ?_, rfl⟩
  have hsome : weekly.2.entries.toList ≠ [] := by decide
  have hgauges : weekly.2.entries.toList.flatMap (fun p =>
      checkLine "healthcheck" p.1 (Numeral.decimal p.2.status.gauge)) =
        "healthcheck\x7bhealthcheck=\"cache\"\x7d 1\n".toList ++
        "healthcheck\x7bhealthcheck=\"queue \\\"a\\\"\"\x7d 2\n".toList := by decide +kernel
  have htimes : weekly.2.entries.toList.flatMap (fun p =>
      checkLine "healthcheck_duration_seconds" p.1 p.2.duration.seconds.plainText) =
        "healthcheck_duration_seconds\x7bhealthcheck=\"cache\"\x7d 1.5\n".toList ++
        "healthcheck_duration_seconds\x7bhealthcheck=\"queue \\\"a\\\"\"\x7d 0\n".toList := by
    decide +kernel
  have hcount : plainLine "healthcheck_evaluations_total" (Numeral.decimal (weekly.1.length + 1)) =
      "healthcheck_evaluations_total 3\n".toList := by decide +kernel
  have hoverall : plainLine "healthcheck_overall" (Numeral.decimal weekly.2.overall.gauge) =
      "healthcheck_overall 1\n".toList := by decide +kernel
  have htotal : plainLine "healthcheck_total_duration_seconds" weekly.2.total.seconds.plainText =
      "healthcheck_total_duration_seconds 1.5\n".toList := by decide +kernel
  simp only [checkSeries, counterSeries, overallSeries, checkFamily, plainFamily, List.map_eq_nil_iff,
    if_neg hsome, List.flatMap_map, hgauges, htimes, hcount, hoverall, htotal]

end Metrics

end HealthWatch
