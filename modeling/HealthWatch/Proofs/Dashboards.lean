import HealthWatch.Dashboard.Reader
import HealthWatch.Proofs.Json.Values
import HealthWatch.Proofs.Readings
import HealthWatch.Proofs.Timespans
/-!
# Reports of dashboards as they are written and read

`read_text` says that the text of a dashboard is read as the dashboard, with its durations in whole
ticks. Each field is read from the outline that it was written as, records and maps from the outlines of
their fields.
-/

namespace HealthWatch

open Json (Outline)

namespace DashboardEntry

/-- The entry with its duration in whole ticks. -/
def inTicks (e : DashboardEntry) : DashboardEntry :=
  { e with duration := e.duration.roundedDown Timespan.tickNanos }

/-- The data of the entry holds no numbers but integers. -/
def Integral (e : DashboardEntry) : Prop :=
  ∀ name d, e.data.get? name = some d → d.json.isIntegral = true

theorem json_inTicks (e : DashboardEntry) : e.inTicks.json = e.json := by
  simp only [json, inTicks, Timespan.format_roundedDown]

end DashboardEntry

namespace Dashboard

/-- The dashboard with its durations in whole ticks. -/
def inTicks (d : Dashboard) : Dashboard where
  status := d.status
  total := d.total.roundedDown Timespan.tickNanos
  entries := d.entries.map fun _ => .inTicks

theorem json_inTicks (d : Dashboard) : d.inTicks.json = d.json := by
  simp only [json, inTicks, Timespan.format_roundedDown, NameMap.map, List.map_map,
    Function.comp_def, DashboardEntry.json_inTicks]

/-! ## Fields -/

theorem readString_escape (s : String) : readString (.string (Json.escape s.toList)) = .ok s := by
  rw [readString, Json.stringValue?_escape]
  rfl

theorem readOptional_outline (s : Option String) :
    readOptional (Json.ofString? s).outline = .ok s := by
  cases s with
  | none => rfl
  | some s =>
    rw [Json.ofString?, Json.outline, readOptional, readString_escape]
    · rfl
    · exact fun h => nomatch h

theorem readStatus_outline (s : Status) : readStatus (Json.string s.name).outline = .ok s := by
  rw [Json.outline, readStatus]
  · rw [readString_escape]
    show orMalformed (Status.ofName? s.name) = _
    rw [Status.ofName?_name]
    rfl
  · exact fun _ h => nomatch h

theorem readDuration_outline (d : Duration) :
    readDuration (Json.string (String.ofList (Timespan.format d))).outline =
      .ok (d.roundedDown Timespan.tickNanos) := by
  rw [Json.outline, readDuration, readString_escape, bind_eq_ok_iff]
  refine ⟨_, rfl, ?_⟩
  rw [String.toList_ofList, Timespan.parse_format]

theorem readNames_outline (s : NameSet) : readNames (Json.ofStrings s.toList).outline = .ok s := by
  rw [Json.ofStrings, Json.outline, Json.itemOutlines_eq_map, List.map_map, readNames, bind_eq_ok_iff]
  refine ⟨s.toList, ?_, ?_⟩
  · have hread := mapM_map_eq_ok (l := s.toList) fun n _ => readString_escape n
    rwa [List.map_id'] at hread
  · exact congrArg Except.ok s.ofList_toList

theorem readMap_outline {α β : Type} {readValue : Outline → Except Fault β} {toJson : α → Json}
    {f : α → β} {m : NameMap α}
    (h : ∀ p ∈ m.toList, readValue (toJson p.2).outline = .ok (f p.2)) :
    readMap readValue (Json.object (m.toList.map fun p => (p.1, toJson p.2))).outline =
      .ok (m.map fun _ => f) := by
  rw [Json.outline, Json.memberOutlines_eq_map, List.map_map, readMap, bind_eq_ok_iff]
  refine ⟨(m.map fun _ => f).toList, mapM_map_eq_ok ?_, ?_⟩
  · intro p hp
    refine bind_eq_ok_iff.2 ⟨p.1, readString_escape p.1, ?_⟩
    exact bind_eq_ok_iff.2 ⟨f p.2, h p hp, rfl⟩
  · exact congrArg Except.ok (m.map fun _ => f).ofList_toList

theorem readDatum_outline {d : Datum} (h : d.json.isIntegral = true)
    (hdepth : d.json.depth ≤ dataDepth) : readDatum d.json.outline = .ok d := by
  rw [readDatum, Json.value?_outline d.json h hdepth, Option.map_some, d.ofJson_json]
  rfl

/-! ## Records -/

theorem readEntry_outline {e : DashboardEntry}
    (h : ∀ p ∈ e.data.toList, p.2.json.isIntegral = true ∧ p.2.json.depth ≤ dataDepth) :
    readEntry e.json.outline = .ok e.inTicks := by
  have hmembers : e.json.outline = .object [
      (Json.escape "data".toList, (Json.object (e.data.toList.map fun p => (p.1, p.2.json))).outline),
      (Json.escape "description".toList, (Json.ofString? e.description).outline),
      (Json.escape "duration".toList,
        (Json.string (String.ofList (Timespan.format e.duration))).outline),
      (Json.escape "exception".toList, (Json.ofString? e.exception).outline),
      (Json.escape "status".toList, (Json.string e.status.name).outline),
      (Json.escape "tags".toList, (Json.ofStrings e.tags.toList).outline)] true := rfl
  have hdata := @readMap_outline _ _ readDatum Datum.json id e.data fun p hp =>
    readDatum_outline (h p hp).1 (h p hp).2
  rw [NameMap.map_id] at hdata
  rw [hmembers, readEntry, bind_eq_ok_iff]
  refine ⟨{
    data := some e.data
    description := some e.description
    duration := some (e.duration.roundedDown Timespan.tickNanos)
    exception := some e.exception
    status := some e.status
    tags := some e.tags }, ?_, rfl⟩
  -- Each member is met once, so that its field is still empty.
  simp only [List.foldlM_cons, List.foldlM_nil, EntryFields.member, readString_escape, hdata,
    readOptional_outline, readDuration_outline, readStatus_outline, readNames_outline, require,
    Option.isNone_none, bind, Except.bind, pure, Except.pure, if_true]

theorem readOutline_outline {d : Dashboard}
    (h : ∀ p ∈ d.entries.toList, ∀ q ∈ p.2.data.toList,
      q.2.json.isIntegral = true ∧ q.2.json.depth ≤ dataDepth) :
    readOutline d.json.outline = .ok d.inTicks := by
  have hmembers : d.json.outline = .object [
      (Json.escape "status".toList, (Json.string d.status.name).outline),
      (Json.escape "totalDuration".toList,
        (Json.string (String.ofList (Timespan.format d.total))).outline),
      (Json.escape "entries".toList,
        (Json.object (d.entries.toList.map fun p => (p.1, p.2.json))).outline)] true := rfl
  have hentries := @readMap_outline _ _ readEntry DashboardEntry.json .inTicks d.entries fun p hp =>
    readEntry_outline (h p hp)
  rw [hmembers, readOutline, bind_eq_ok_iff]
  refine ⟨{
    status := some d.status
    total := some (d.total.roundedDown Timespan.tickNanos)
    entries := some (d.entries.map fun _ => .inTicks) }, ?_, rfl⟩
  simp only [List.foldlM_cons, List.foldlM_nil, Fields.member, readString_escape, hentries,
    readDuration_outline, readStatus_outline, require, Option.isNone_none, bind, Except.bind, pure,
    Except.pure, if_true]

/-! ## Numbers and depth -/

theorem isIntegral_entry {e : DashboardEntry} (h : e.Integral) : e.json.isIntegral = true := by
  have hdata : Json.membersAreIntegral (e.data.toList.map fun p => (p.1, p.2.json)) = true := by
    refine Json.membersAreIntegral_iff.2 fun m hm => ?_
    obtain ⟨p, hp, rfl⟩ := List.mem_map.1 hm
    exact h p.1 p.2 (NameMap.get?_eq_some_iff.2 hp)
  have hoptional : ∀ s, (Json.ofString? s).isIntegral = true := by
    rintro (_ | s) <;> rfl
  have htags : (Json.ofStrings e.tags.toList).isIntegral = true := by
    refine Json.areIntegral_iff.2 fun j hj => ?_
    obtain ⟨s, -, rfl⟩ := List.mem_map.1 hj
    rfl
  refine Json.membersAreIntegral_iff.2 ?_
  simp [hdata, hoptional, htags, Json.isIntegral]

theorem isIntegral_json {d : Dashboard} (h : ∀ p ∈ d.entries.toList, p.2.Integral) :
    d.json.isIntegral = true := by
  have hentries : Json.membersAreIntegral (d.entries.toList.map fun p => (p.1, p.2.json)) = true := by
    refine Json.membersAreIntegral_iff.2 fun m hm => ?_
    obtain ⟨p, hp, rfl⟩ := List.mem_map.1 hm
    exact isIntegral_entry (h p hp)
  refine Json.membersAreIntegral_iff.2 ?_
  simp [hentries, Json.isIntegral]

/-- The report, its entries, an entry and its data leave the rest of the depth to the values. -/
theorem depth_datum_le {d : Dashboard} (hdepth : d.json.depth ≤ Json.greatestDepth)
    {p : String × DashboardEntry} (hp : p ∈ d.entries.toList) {q : String × Datum}
    (hq : q ∈ p.2.data.toList) : q.2.json.depth ≤ dataDepth := by
  have hvalue := Json.depth_lt_of_mem (List.mem_map.2 ⟨q, hq, rfl⟩ :
    (q.1, q.2.json) ∈ p.2.data.toList.map fun q => (q.1, q.2.json))
  have hdata : _ < p.2.json.depth := Json.depth_lt_of_mem List.mem_cons_self
  have hentry := Json.depth_lt_of_mem (List.mem_map.2 ⟨p, hp, rfl⟩ :
    (p.1, p.2.json) ∈ d.entries.toList.map fun p => (p.1, p.2.json))
  have hentries : _ < d.json.depth :=
    Json.depth_lt_of_mem (List.mem_cons_of_mem _ (List.mem_cons_of_mem _ List.mem_cons_self))
  unfold dataDepth
  dsimp only at hvalue hdata hentry hentries
  omega

/-! ## Whole reports -/

/-- The text of a dashboard is read as the dashboard, with its durations in whole ticks. -/
theorem read_text {d : Dashboard} (h : ∀ p ∈ d.entries.toList, p.2.Integral)
    (hdepth : d.json.depth ≤ Json.greatestDepth) : read d.text = .ok d.inTicks := by
  have hvalues : ∀ p ∈ d.entries.toList, ∀ q ∈ p.2.data.toList,
      q.2.json.isIntegral = true ∧ q.2.json.depth ≤ dataDepth := by
    intro p hp q hq
    exact ⟨h p hp q.1 q.2 (NameMap.get?_eq_some_iff.2 hq), depth_datum_le hdepth hp hq⟩
  rw [read, text, Json.ofText_print (isIntegral_json h)]
  exact bind_eq_ok_iff.2 ⟨d.inTicks, readOutline_outline hvalues, rfl⟩

theorem text_inTicks (d : Dashboard) : d.inTicks.text = d.text := by
  rw [text, text, json_inTicks]

/-- What a dashboard shows of a report that states an overall status of its own. -/
def ofStated (r : Report) (overall : Status) : Dashboard := { ofReport r with status := overall }

/-- A report without numbers but integers in its data, and nested no deeper than readers follow, is read
back as it was written, with its durations in whole ticks, and is then written with the same text. -/
theorem report_reads_back (r : Report) (overall : Status)
    (hdata : ∀ check o, r.entries.get? check = some o →
      ∀ name d, o.data.get? name = some d → d.json.isIntegral = true)
    (hdepth : (ofStated r overall).json.depth ≤ Json.greatestDepth) :
    read (ofStated r overall).text = .ok (ofStated r overall).inTicks ∧
      (ofStated r overall).inTicks.text = (ofStated r overall).text := by
  refine ⟨read_text ?_ hdepth, text_inTicks _⟩
  intro p hp
  obtain ⟨q, hq, rfl⟩ := List.mem_map.1 hp
  exact hdata q.1 q.2 (NameMap.get?_eq_some_iff.2 hq)

/-- A report with quotes in a name, nested data and durations that end within a tick. -/
def nightly : Report where
  entries := .ofList [("db \"main\"", {
    status := .degraded
    data := .ofList [("pools", .ofJson (.array [.ofStrings ["a\\b"], .ofInt (-3)]))]
    duration := .ofNanos 1_250_000_042
    tags := .ofList ["sql"] })]
  total := .ofNanos 86_400_000_000_150
  checkedAt := 0

theorem report_reads_back_nightly :
    (ofStated nightly .degraded).json.depth = 6 ∧
      read (ofStated nightly .degraded).text = .ok (ofStated nightly .degraded).inTicks ∧
      (ofStated nightly .degraded).inTicks.text = (ofStated nightly .degraded).text ∧
      (ofStated nightly .degraded).inTicks.total = .ofNanos 86_400_000_000_100 := by
  have hdepth : (ofStated nightly .degraded).json.depth = 6 := by decide +kernel
  have hdata : ∀ check o, nightly.entries.get? check = some o →
      ∀ name d, o.data.get? name = some d → d.json.isIntegral = true := by
    intro check o ho name d hd
    obtain ⟨-, rfl⟩ := Prod.mk.inj (List.mem_singleton.1
      (NameMap.mem_of_mem_ofList (NameMap.get?_eq_some_iff.1 ho)))
    obtain ⟨-, rfl⟩ := Prod.mk.inj (List.mem_singleton.1
      (NameMap.mem_of_mem_ofList (NameMap.get?_eq_some_iff.1 hd)))
    rfl
  obtain ⟨hread, htext⟩ := report_reads_back nightly .degraded hdata (by rw [hdepth]; decide)
  exact ⟨hdepth, hread, htext, by decide⟩

end Dashboard

end HealthWatch
