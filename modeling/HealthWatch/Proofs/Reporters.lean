import HealthWatch.Dashboard
import HealthWatch.Notification.Template
import HealthWatch.Proofs.Exposition
import HealthWatch.Proofs.Reports
import HealthWatch.Proofs.Templates
/-!
# Dashboards, metrics and notifications agree

All that is told of a report is derived from the statuses of its entries. Gauges run the other way than
severity, so the worst status has the least gauge (`gauge_worst`), and failing is the same as having a gauge
below that of a healthy check (`gauge_lt_iff`). `reporters_agree` compares the reporters.
-/

namespace HealthWatch

namespace Status

/-- A status is the worst of several: none of them is worse and it is one of them. With none to judge it is
healthy. -/
structure IsWorstOf (s : Status) (statuses : List Status) : Prop where
  bounds : ∀ t ∈ statuses, t ≤ s
  attained : s ∈ statuses ∨ statuses = [] ∧ s = healthy

theorem isWorstOf_worst (statuses : List Status) : IsWorstOf (worst statuses) statuses where
  bounds _ ht := le_worst ht
  attained := by
    by_cases h : statuses = []
    · subst h
      exact .inr ⟨rfl, rfl⟩
    · exact .inl (worst_mem h)

theorem isHealthy_iff {s : Status} : s.isHealthy = true ↔ s = healthy := decide_eq_true_iff

/-- Only a healthy status is no worse than a healthy one. -/
theorem eq_healthy_of_le {s : Status} (h : s ≤ healthy) : s = healthy := by
  cases s with
  | healthy => rfl
  | degraded | unhealthy => exact absurd h (by decide)

theorem isHealthy_worst_iff {statuses : List Status} :
    (worst statuses).isHealthy = true ↔ ∀ s ∈ statuses, s.isHealthy = true := by
  simp only [isHealthy_iff]
  constructor
  · intro h s hs
    exact eq_healthy_of_le (h ▸ le_worst hs)
  · intro h
    rcases (isWorstOf_worst statuses).attained with hmem | ⟨-, hnone⟩
    · exact h _ hmem
    · exact hnone

/-! ## Gauges -/

theorem gauge_le_gauge {s t : Status} (h : s ≤ t) : t.gauge ≤ s.gauge := by
  have hsum : ∀ u : Status, u.gauge + u.severity = 2 := fun u => by cases u <;> rfl
  have hle : s.severity ≤ t.severity := h
  have hs := hsum s
  have ht := hsum t
  omega

/-- What is not healthy has a gauge below that of what is. -/
theorem gauge_lt_iff {s : Status} : s.gauge < 2 ↔ s.isHealthy = false := by
  cases s <;> decide

/-- The worst status has the least gauge. -/
theorem gauge_worst (statuses : List Status) :
    (worst statuses).gauge = (statuses.map gauge).min?.getD 2 := by
  obtain ⟨hbounds, hattained⟩ := isWorstOf_worst statuses
  rcases hattained with hmem | ⟨rfl, -⟩
  · have hmin : (statuses.map gauge).min? = some (worst statuses).gauge := by
      refine List.min?_eq_some_iff.2 ⟨List.mem_map_of_mem hmem, fun g hg => ?_⟩
      obtain ⟨s, hs, rfl⟩ := List.mem_map.1 hg
      exact gauge_le_gauge (hbounds s hs)
    rw [hmin, Option.getD_some]
  · rfl

end Status

/-! ## Each reporter -/

namespace Report

/-- The statuses of the entries, in the order of their names. -/
def statuses (r : Report) : List Status := r.entries.values.map (·.status)

/-- As many entries fail as there are statuses that are not healthy. -/
theorem size_failing (r : Report) :
    r.failing.size = (r.statuses.filter fun s => !s.isHealthy).length := by
  rw [statuses, NameMap.values, List.map_map, List.filter_map, List.length_map]
  rfl

/-- A report is not healthy as a whole exactly when an entry fails. -/
theorem size_failing_pos_iff {r : Report} : 0 < r.failing.size ↔ r.overall.isHealthy = false := by
  rw [size_failing, List.length_pos_iff, Ne, List.filter_eq_nil_iff, ← Bool.not_eq_true, overall,
    Status.isHealthy_worst_iff]
  simp [statuses]

theorem statuses_dashboard (r : Report) :
    (Dashboard.ofReport r).entries.values.map (·.status) = r.statuses := by
  rw [statuses, Dashboard.ofReport, NameMap.values, NameMap.values, NameMap.map, List.map_map,
    List.map_map, List.map_map]
  rfl

theorem keys_failing_dashboard (r : Report) :
    (Dashboard.ofReport r).failing.keys = r.failing.keys := by
  simp only [NameMap.keys, Dashboard.failing, Dashboard.ofReport, failing, NameMap.filter, NameMap.map,
    List.filter_map, List.map_map]
  rfl

/-- The gauges of the checks after a report, whatever was recorded before it. -/
theorem gauges_ofReports (earlier : List Report) (r : Report) :
    (Metrics.ofReports (earlier ++ [r])).statuses.values = r.statuses.map (·.gauge) := by
  rw [Metrics.ofReports_snoc, statuses, Metrics.showing, NameMap.values, NameMap.values, NameMap.map,
    List.map_map, List.map_map, List.map_map]
  rfl

end Report

/-- Only a status that is not healthy makes a notification of an outage due. -/
theorem LivenessBook.isHealthy_of_down {b : LivenessBook} {minInterval : Duration} {instant : Int}
    {name : String} {s : Status} (h : (b.observeAt minInterval instant name s).2 = some .down) :
    s.isHealthy = false := by
  cases hs : s.isHealthy with
  | false => rfl
  | true =>
    have hkind : ∀ l : Liveness, l.kind? s ≠ some .down := by
      intro l
      unfold Liveness.kind?
      rw [hs]
      cases l.isDown <;> decide
    unfold observeAt Liveness.update at h
    dsimp only at h
    split at h
    · cases h
    · next kind hdue =>
      split at h
      · cases h
      · cases h
        exact absurd hdue (hkind _)

namespace Template

open Text (replaceAll replaceAll_found replaceAll_cons_of_not_isPrefixOf)

/-- How many checks fail, in words. -/
def countText (n : Nat) : List Char :=
  ("There are at least " ++ Numeral.text n ++ " HealthChecks failing.").toList

/-- A digit needs no escape. -/
theorem escapeChar_of_isDigit {c : Char} (h : c.isDigit = true) : Json.escapeChar c = [c] := by
  have hne : ∀ d : Char, d.isDigit = false → c ≠ d := by
    rintro d hd rfl
    rw [h] at hd
    cases hd
  have hprintable : ¬ c.toNat < 0x20 := by
    have hle : 48 ≤ c.toNat := (of_decide_eq_true (Bool.and_eq_true_iff.1 h).1 : '0'.val ≤ c.val)
    omega
  unfold Json.escapeChar
  rw [if_neg (hne _ rfl), if_neg (hne _ rfl), if_neg (hne _ rfl), if_neg (hne _ rfl),
    if_neg (hne _ rfl), if_neg (hne _ rfl), if_neg (hne _ rfl), if_neg hprintable]

/-- The count needs no escapes and holds no brackets. -/
theorem plain_countText {n : Nat} {c : Char} (hc : c ∈ countText n) :
    Json.escapeChar c = [c] ∧ c ≠ '[' ∧ c ≠ ']' := by
  -- The list is checked, as the quantifier may be decided by going through all characters.
  have hall : ("There are at least ".toList ++ " HealthChecks failing.".toList).all
      (fun c => decide (Json.escapeChar c = [c] ∧ c ≠ '[' ∧ c ≠ ']')) = true := by decide +kernel
  have hwords : ∀ c ∈ "There are at least ".toList ++ " HealthChecks failing.".toList,
      Json.escapeChar c = [c] ∧ c ≠ '[' ∧ c ≠ ']' :=
    fun c hc => of_decide_eq_true (List.all_eq_true.1 hall c hc)
  rw [countText, String.toList_append, String.toList_append] at hc
  rcases List.mem_append.1 hc with hc | hc
  · rcases List.mem_append.1 hc with hc | hc
    · exact hwords c (List.mem_append_left _ hc)
    · rw [Numeral.text, String.toList_ofList] at hc
      have hdigit := Numeral.isDigit_of_mem_decimal hc
      refine ⟨escapeChar_of_isDigit hdigit, ?_, ?_⟩
      · rintro rfl
        cases hdigit
      · rintro rfl
        cases hdigit
  · exact hwords c (List.mem_append_right _ hc)

/-- In a notification of an outage the count of the entries that fail stands in the place of its bookmark. -/
theorem render_down (template : List Char) (name : String) (r : Report) :
    render template name .down r =
      replaceAll descriptionsMark (Json.escape (descriptionsText .down r).toList)
        (replaceAll failureMark (countText r.failing.size)
          (replaceAll livenessMark (Json.escape name.toList) template)) := by
  have hescape : Json.escape (countText r.failing.size) = countText r.failing.size :=
    Json.escape_eq_self fun c hc => (plain_countText hc).1
  have hcount : (failureText .down r).toList = countText r.failing.size := rfl
  rw [render, hcount, hescape]

/-- A text without bookmarks stays as it is. -/
theorem replaceAll_of_notMem {p v a : List Char} (hp : IsMark p) (ha : '[' ∉ a) :
    replaceAll p v a = a := by
  have happend := replaceAll_append_of_notMem (v := v) hp ha []
  rwa [List.append_nil, show replaceAll p v [] = [] from rfl, List.append_nil] at happend

/-- A template that only asks for the count shows it. -/
theorem render_failureMark {before after : List Char} (hbefore : '[' ∉ before) (hafter : '[' ∉ after)
    (name : String) (r : Report) :
    render (before ++ failureMark ++ after) name .down r =
      before ++ countText r.failing.size ++ after := by
  have hname : ∀ v, replaceAll livenessMark v (before ++ failureMark ++ after) =
      before ++ failureMark ++ after := by
    intro v
    have hmark : failureMark = '[' :: '[' :: "FAILURE]]".toList := rfl
    have hrest : '[' ∉ "FAILURE]]".toList ++ after := by
      rw [List.mem_append, not_or]
      exact ⟨by decide, hafter⟩
    rw [List.append_assoc, replaceAll_append_of_notMem isMark_livenessMark hbefore, hmark,
      List.cons_append, List.cons_append, replaceAll_cons_of_not_isPrefixOf rfl,
      replaceAll_cons_of_not_isPrefixOf rfl, replaceAll_of_notMem isMark_livenessMark hrest]
  have hplain : '[' ∉ before ++ countText r.failing.size ++ after := by
    simp only [List.mem_append, not_or]
    exact ⟨⟨hbefore, fun h => (plain_countText h).2.1 rfl⟩, hafter⟩
  rw [render_down, hname, List.append_assoc, replaceAll_append_of_notMem isMark_failureMark hbefore,
    replaceAll_found isMark_failureMark.ne_nil, replaceAll_of_notMem isMark_failureMark hafter,
    ← List.append_assoc, replaceAll_of_notMem isMark_descriptionsMark hplain]

end Template

/-! ## All reporters -/

/-- Of every report all tell the same. It is not healthy as a whole exactly when an entry fails. A dashboard
shows its status, which is the worst of the entries there, and the same failing entries. Once it has been
recorded, the overall gauge is the least of the gauges of the checks, and those below two are as many as
entries fail. A notification of an outage tells that number, and if one is due, the number is not zero. -/
theorem reporters_agree (r : Report) :
    (r.overall.isHealthy = false ↔ r.failing.keys ≠ []) ∧
    ((Dashboard.ofReport r).status = r.overall ∧
      (Dashboard.ofReport r).failing.keys = r.failing.keys ∧
      (Dashboard.ofReport r).status.IsWorstOf
        ((Dashboard.ofReport r).entries.values.map (·.status))) ∧
    (∀ earlier, (Metrics.ofReports (earlier ++ [r])).overall =
        (Metrics.ofReports (earlier ++ [r])).statuses.values.min?.getD 2 ∧
      ((Metrics.ofReports (earlier ++ [r])).statuses.values.filter (· < 2)).length =
        r.failing.size) ∧
    ((∀ template name, Template.render template name .down r =
        Text.replaceAll Template.descriptionsMark
          (Json.escape (Template.descriptionsText .down r).toList)
          (Text.replaceAll Template.failureMark (Template.countText r.failing.size)
            (Text.replaceAll Template.livenessMark (Json.escape name.toList) template))) ∧
      ∀ name before after, '[' ∉ before → '[' ∉ after →
        Template.render (before ++ Template.failureMark ++ after) name .down r =
          before ++ Template.countText r.failing.size ++ after) ∧
    ∀ (b : LivenessBook) minInterval instant name,
      (b.observeAt minInterval instant name r.overall).2 = some .down → 1 ≤ r.failing.size := by
  refine ⟨?_, ⟨rfl, r.keys_failing_dashboard, ?_⟩, fun earlier => ⟨?_, ?_⟩,
    ⟨fun template name => Template.render_down template name r, ?_⟩, ?_⟩
  · rw [← Report.size_failing_pos_iff, NameMap.keys, Ne, List.map_eq_nil_iff]
    exact List.length_pos_iff
  · rw [r.statuses_dashboard]
    exact Status.isWorstOf_worst _
  · rw [r.gauges_ofReports, Metrics.ofReports_snoc, ← Status.gauge_worst]
    rfl
  · rw [r.gauges_ofReports, r.size_failing, List.filter_map, List.length_map]
    refine congrArg List.length (List.filter_congr fun s _ => ?_)
    show decide (s.gauge < 2) = !s.isHealthy
    rw [Bool.eq_iff_iff, decide_eq_true_iff, Status.gauge_lt_iff, Bool.not_eq_true']
  · exact fun name before after hbefore hafter => Template.render_failureMark hbefore hafter name r
  · exact fun b minInterval instant name hdue =>
      Report.size_failing_pos_iff.2 (LivenessBook.isHealthy_of_down hdue)

/-- Of three checks one is degraded, one is unhealthy, and one counts as healthy although it failed. -/
def Report.lenient : Report where
  entries := .ofList [
    ("cache", { status := .healthy, error := some "probe timed out after 1s" }),
    ("db", { status := .degraded, description := some "slow" }),
    ("disk", { status := .unhealthy })]
  total := .zero
  checkedAt := 0

theorem reporters_agree_lenient :
    Report.lenient.failing.keys = ["db", "disk"] ∧ Report.lenient.overall.isHealthy = false ∧
      (Metrics.ofReports [Report.lenient]).overall = 0 ∧
      Template.render "[[FAILURE]]".toList "site" .down Report.lenient =
        "There are at least 2 HealthChecks failing.".toList ∧
      ((LivenessBook.observeAt .empty .zero 0 "site" Report.lenient.overall).2 = some .down ∧
        1 ≤ Report.lenient.failing.size) := by
  have hkeys : Report.lenient.failing.keys = ["db", "disk"] := by decide +kernel
  have hsize : Report.lenient.failing.size = 2 := by decide +kernel
  have hdue : (LivenessBook.observeAt .empty .zero 0 "site" Report.lenient.overall).2 =
      some .down := by decide +kernel
  obtain ⟨hfails, -, hgauges, ⟨-, hcount⟩, hdown⟩ := reporters_agree Report.lenient
  refine ⟨hkeys, hfails.2 (by rw [hkeys]; decide), ?_, ?_, hdue, hdown _ _ _ _ hdue⟩
  · have hleast := (hgauges []).1
    rw [List.nil_append] at hleast
    rw [hleast]
    decide +kernel
  · have htext := hcount "site" [] [] List.not_mem_nil List.not_mem_nil
    have hwords : Template.countText 2 = "There are at least 2 HealthChecks failing.".toList := by
      decide +kernel
    rwa [hsize, hwords, List.nil_append, List.nil_append, List.append_nil, List.append_nil] at htext

end HealthWatch
