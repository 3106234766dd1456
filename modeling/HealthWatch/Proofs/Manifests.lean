import HealthWatch.Proofs.Configuration
import Mathlib.Data.List.Induction
/-!
# Which manifests are accepted

A check can be at fault in six ways; `CheckItem.Faulty` says when, and how it is reported.
`Registry.addItem_eq_error_iff` sums up the registration of one check: it fails with the first fault of the
check in the order `CheckItem.Flaw.order`. `Manifest.registry_blames_first` follows for the whole manifest,
check by check.
-/

namespace HealthWatch

/-! ## What can be wrong with a check -/

namespace CheckItem

/-- What can be wrong with a check. -/
inductive Flaw where
  | method
  | expectedStatus
  | timeout
  | failureStatus
  | blankName
  | duplicateName
  deriving DecidableEq, Repr

/-- The order in which flaws are looked for. -/
def Flaw.order : List Flaw :=
  [.method, .expectedStatus, .timeout, .failureStatus, .blankName, .duplicateName]

/-- A text becomes the name of a method when its letters are made capital. -/
def IsMethod (s : String) : Prop := s.toList ≠ [] ∧ ∀ c ∈ s.toList, isMethodChar c.toUpper = true

/-- A check has a flaw, and it is reported as a fault; `taken` are the names of the checks before it. -/
inductive Faulty (taken : List String) (item : CheckItem) : Flaw → ConfigFault → Prop
  | method {url method : String} {range : Option (Nat × Nat)} {content : Option String}
      {headers : NameMap String}
      (hprobe : item.probe = .http url (some method) range content headers) (h : ¬ IsMethod method) :
    Faulty taken item .method (.invalid (item.fieldName "method") method "invalid HTTP method")
  | expectedStatus {url : String} {method : Option String} {low high : Nat} {content : Option String}
      {headers : NameMap String}
      (hprobe : item.probe = .http url method (some (low, high)) content headers) (h : high < low) :
    Faulty taken item .expectedStatus (.invalid (item.fieldName "expected_status")
      ("[" ++ Numeral.text low ++ ", " ++ Numeral.text high ++ "]") "min must not exceed max")
  | timeout {text : String} (htimeout : item.timeout = some text)
      (h : Duration.read? text.toList = none) :
    Faulty taken item .timeout
      (.invalid (item.fieldName "timeout") text "expected a duration like 5s")
  | failureStatus {text : String} (hstatus : item.failureStatus = some text)
      (h : Status.read? text = none) :
    Faulty taken item .failureStatus
      (.invalid (item.fieldName "failure_status") text (Status.unknownMessage text))
  | blankName (h : Text.trim item.name.toList = []) :
    Faulty taken item .blankName (.registry .emptyName)
  | duplicateName (h : item.name ∈ taken) :
    Faulty taken item .duplicateName (.registry (.duplicateName item.name))

/-- A registration is what the manifest says of a check. -/
structure ListedAs (item : CheckItem) (r : Registration) : Prop where
  name : r.name = item.name
  tags : ∀ tag, tag ∈ r.tags ↔ tag ∈ item.tags
  timeout : ∀ d, r.timeout = some d ↔
    ∃ text, item.timeout = some text ∧ Duration.read? text.toList = some d
  failureStatus : item.failureStatus = none ∧ r.failureStatus = .unhealthy ∨
    ∃ text, item.failureStatus = some text ∧ Status.read? text = some r.failureStatus

variable {taken : List String} {item : CheckItem} {net : Network} {e : ConfigFault}

/-! ## One check, step by step -/

theorem readMethod?_eq_none_iff {s : String} : readMethod? s = none ↔ ¬ IsMethod s := by
  have hiff : (s.toList.map Char.toUpper ≠ [] ∧
      (s.toList.map Char.toUpper).all isMethodChar = true) ↔ IsMethod s := by
    rw [IsMethod, Ne, List.map_eq_nil_iff, List.all_map, List.all_eq_true]
    exact Iff.rfl
  unfold readMethod?
  by_cases h : IsMethod s
  · rw [if_pos (hiff.2 h)]
    exact ⟨fun h => (nomatch h), fun hn => absurd h hn⟩
  · rw [if_neg (mt hiff.1 h)]
    exact ⟨fun _ => h, fun _ => rfl⟩

section Request
variable {url : String} {method : Option String} {range : Option (Nat × Nat)} {content : Option String}
  {headers : NameMap String}

theorem readMethod_eq_error_iff
    (hprobe : item.probe = .http url method range content headers) :
    item.readMethod method = .error e ↔ item.Faulty taken .method e := by
  constructor
  · intro h
    unfold readMethod at h
    split at h
    · cases h
    · next m =>
      split at h
      · cases h
      · next hm =>
        cases h
        exact .method hprobe (readMethod?_eq_none_iff.1 hm)
  · intro h
    cases h with
    | method hprobe' h =>
      rw [hprobe] at hprobe'
      cases hprobe'
      simp only [readMethod, readMethod?_eq_none_iff.2 h]

theorem readExpectedStatus_eq_error_iff
    (hprobe : item.probe = .http url method range content headers) :
    item.readExpectedStatus range = .error e ↔ item.Faulty taken .expectedStatus e := by
  constructor
  · intro h
    unfold readExpectedStatus at h
    split at h
    · cases h
    · split at h
      · cases h
      · next hle =>
        cases h
        exact .expectedStatus hprobe (Nat.lt_of_not_le hle)
  · intro h
    cases h with
    | expectedStatus hprobe' h =>
      rw [hprobe] at hprobe'
      cases hprobe'
      simp only [readExpectedStatus, if_neg (Nat.not_le.2 h)]

end Request

/-- A check that makes no request over HTTP has none of the flaws of such a request. -/
theorem not_firstFault_probe
    (hprobe : ∀ url method range content headers, item.probe ≠ .http url method range content headers) :
    ¬ FirstFault [.method, .expectedStatus] (item.Faulty taken) e := by
  refine forall_not_firstFault_iff.2 ?_ e
  intro flaw hflaw e' h
  cases h with
  | method hprobe' _ => exact hprobe _ _ _ _ _ hprobe'
  | expectedStatus hprobe' _ => exact hprobe _ _ _ _ _ hprobe'
  | timeout _ _ => simp at hflaw
  | failureStatus _ _ => simp at hflaw
  | blankName _ => simp at hflaw
  | duplicateName _ => simp at hflaw

theorem readProbe_eq_error_iff : item.readProbe net = .error e ↔
    FirstFault [.method, .expectedStatus] (item.Faulty taken) e := by
  cases hprobe : item.probe with
  | http url method range content headers =>
    simp only [readProbe, hprobe]
    refine bind_eq_error_iff_cons (fun e => readMethod_eq_error_iff hprobe) fun m _ => ?_
    refine bind_eq_error_iff_cons (fun e => readExpectedStatus_eq_error_iff hprobe) fun r _ => ?_
    exact ⟨fun h => (nomatch h), fun h => absurd h not_firstFault_nil⟩
  | tcp host port =>
    simp only [readProbe, hprobe]
    exact ⟨fun h => (nomatch h), fun h => absurd h (not_firstFault_probe (by simp [hprobe]))⟩
  | dns host minAddresses =>
    simp only [readProbe, hprobe]
    exact ⟨fun h => (nomatch h), fun h => absurd h (not_firstFault_probe (by simp [hprobe]))⟩

theorem readTimeout_eq_error_iff : item.readTimeout = .error e ↔ item.Faulty taken .timeout e := by
  constructor
  · intro h
    unfold readTimeout at h
    split at h
    · cases h
    · next text htext =>
      split at h
      · cases h
      · next hread =>
        cases h
        exact .timeout htext hread
  · intro h
    cases h with
    | timeout htext h => simp only [readTimeout, htext, h]

theorem readFailureStatus_eq_error_iff :
    item.readFailureStatus = .error e ↔ item.Faulty taken .failureStatus e := by
  constructor
  · intro h
    unfold readFailureStatus at h
    split at h
    · cases h
    · next text htext =>
      split at h
      · cases h
      · next hread =>
        cases h
        exact .failureStatus htext hread
  · intro h
    cases h with
    | failureStatus htext h => simp only [readFailureStatus, htext, h]

theorem registration_eq_error_iff : item.registration net = .error e ↔
    FirstFault [.method, .expectedStatus, .timeout, .failureStatus] (item.Faulty taken) e := by
  show _ ↔ FirstFault ([Flaw.method, .expectedStatus] ++ [.timeout, .failureStatus]) _ _
  refine bind_eq_error_iff_append (fun e => readProbe_eq_error_iff) fun probe _ => ?_
  refine bind_eq_error_iff_cons (fun e => readTimeout_eq_error_iff) fun timeout _ => ?_
  refine bind_eq_error_iff_cons (fun e => readFailureStatus_eq_error_iff) fun status _ => ?_
  exact ⟨fun h => (nomatch h), fun h => absurd h not_firstFault_nil⟩

theorem faulty_blankName_iff : item.Faulty taken .blankName e ↔
    Text.trim item.name.toList = [] ∧ .registry .emptyName = e := by
  constructor
  · rintro ⟨⟩
    next h => exact ⟨h, rfl⟩
  · rintro ⟨h, rfl⟩
    exact .blankName h

theorem faulty_duplicateName_iff : item.Faulty taken .duplicateName e ↔
    item.name ∈ taken ∧ .registry (.duplicateName item.name) = e := by
  constructor
  · rintro ⟨⟩
    next h => exact ⟨h, rfl⟩
  · rintro ⟨h, rfl⟩
    exact .duplicateName h

/-- What is registered of a check is what the manifest says of it. -/
theorem listedAs_of_registration {r : Registration} (h : item.registration net = .ok r) :
    item.ListedAs r := by
  obtain ⟨probe, -, -, htimeout, hstatus, hname, htags⟩ := registration_ok h
  refine ⟨hname, fun tag => ?_, ?_, ?_⟩
  · rw [htags, NameSet.mem_ofList]
  · unfold readTimeout at htimeout
    split at htimeout
    · next hnone =>
      rw [← Except.ok.inj htimeout, hnone]
      simp
    · next text htext =>
      split at htimeout
      · next d hd =>
        rw [← Except.ok.inj htimeout, htext]
        simp [hd]
      · cases htimeout
  · unfold readFailureStatus at hstatus
    split at hstatus
    · next hnone => exact .inl ⟨hnone, (Except.ok.inj hstatus).symm⟩
    · next text htext =>
      split at hstatus
      · next status hread => exact .inr ⟨text, htext, hread.trans (congrArg _ (Except.ok.inj hstatus))⟩
      · cases hstatus

end CheckItem

/-! ## One more check -/

namespace Registry

variable {g : Registry} {item : CheckItem} {net : Network} {r : Registration}

theorem register_eq_error_iff {e : RegistrationFault} : g.register r = .error e ↔
    Text.trim r.name.toList = [] ∧ .emptyName = e ∨
      Text.trim r.name.toList ≠ [] ∧ r.name ∈ g.names ∧ .duplicateName r.name = e := by
  rcases g.register_cases r with ⟨hb, h⟩ | ⟨hb, hd, h⟩ | ⟨hb, hd, g', h, -⟩
  · simp [h, hb]
  · simp [h, hb, hd]
  · simp [h, hb, hd]

/-- A check is refused for the first of its faults. -/
theorem addItem_eq_error_iff {e : ConfigFault} : g.addItem net item = .error e ↔
    FirstFault CheckItem.Flaw.order (item.Faulty g.names) e := by
  show _ ↔ FirstFault ([CheckItem.Flaw.method, .expectedStatus, .timeout, .failureStatus] ++
    [.blankName, .duplicateName]) _ _
  refine bind_eq_error_iff_append (fun e => CheckItem.registration_eq_error_iff) fun r hr => ?_
  have hname : r.name = item.name := (CheckItem.listedAs_of_registration hr).name
  have hfirst : FirstFault [.blankName, .duplicateName] (item.Faulty g.names) e ↔
      ∃ fault, g.register r = .error fault ∧ .registry fault = e := by
    rw [firstFault_cons, firstFault_singleton, CheckItem.faulty_duplicateName_iff]
    simp only [CheckItem.faulty_blankName_iff, register_eq_error_iff, hname]
    by_cases hblank : Text.trim item.name.toList = []
    · simp [hblank]
    · simp [hblank]
  rw [hfirst]
  cases g.register r with
  | ok g' => simp
  | error fault => simp

end Registry

/-! ## Check by check -/

/-- The checks of a manifest are in order. -/
structure ValidChecks (checks : List CheckItem) : Prop where
  named : ∀ item ∈ checks, Text.trim item.name.toList ≠ []
  distinct : (checks.map (·.name)).Nodup
  timeouts : ∀ item ∈ checks, ∀ text, item.timeout = some text →
    (Duration.read? text.toList).isSome = true
  statuses : ∀ item ∈ checks, ∀ text, item.failureStatus = some text →
    (Status.read? text).isSome = true
  methods : ∀ item ∈ checks, ∀ url method range content headers,
    item.probe = .http url (some method) range content headers → CheckItem.IsMethod method
  ranges : ∀ item ∈ checks, ∀ url method low high content headers,
    item.probe = .http url method (some (low, high)) content headers → low ≤ high

/-- One more check keeps the checks in order exactly when it has no fault. -/
theorem validChecks_concat {checks : List CheckItem} {item : CheckItem} :
    ValidChecks (checks ++ [item]) ↔ ValidChecks checks ∧
      ∀ flaw e, ¬ item.Faulty (checks.map (·.name)) flaw e := by
  constructor
  · intro h
    have hmem : ∀ item' ∈ checks, item' ∈ checks ++ [item] := fun _ => List.mem_append_left _
    have hlast : item ∈ checks ++ [item] := List.mem_append_right _ (List.mem_singleton_self item)
    have hdistinct := h.distinct
    rw [List.map_append, List.map_singleton, List.nodup_append] at hdistinct
    refine ⟨?_, fun flaw e hfault => ?_⟩
    · exact {
        named := fun i hi => h.named i (hmem i hi)
        distinct := hdistinct.1
        timeouts := fun i hi => h.timeouts i (hmem i hi)
        statuses := fun i hi => h.statuses i (hmem i hi)
        methods := fun i hi => h.methods i (hmem i hi)
        ranges := fun i hi => h.ranges i (hmem i hi) }
    · cases hfault with
      | method hprobe hnot => exact hnot (h.methods item hlast _ _ _ _ _ hprobe)
      | expectedStatus hprobe hlt => exact Nat.not_le.2 hlt (h.ranges item hlast _ _ _ _ _ _ hprobe)
      | timeout htext hnone =>
        have hsome := h.timeouts item hlast _ htext
        rw [hnone] at hsome
        cases hsome
      | failureStatus htext hnone =>
        have hsome := h.statuses item hlast _ htext
        rw [hnone] at hsome
        cases hsome
      | blankName hblank => exact h.named item hlast hblank
      | duplicateName htaken => exact hdistinct.2.2 _ htaken _ (List.mem_singleton_self _) rfl
  · rintro ⟨h, hnot⟩
    have hboth : ∀ {p : CheckItem → Prop}, (∀ i ∈ checks, p i) → p item →
        ∀ i ∈ checks ++ [item], p i := by
      intro p hp hitem i hi
      rcases List.mem_append.1 hi with hi | hi
      · exact hp i hi
      · exact List.mem_singleton.1 hi ▸ hitem
    refine ⟨?_, ?_, ?_, ?_, ?_, ?_⟩
    · exact hboth h.named fun hblank => hnot _ _ (.blankName hblank)
    · rw [List.map_append, List.map_singleton, List.nodup_append]
      refine ⟨h.distinct, by simp, fun a ha b hb hab => ?_⟩
      obtain rfl := hab.trans (List.mem_singleton.1 hb)
      exact hnot _ _ (.duplicateName ha)
    · exact hboth h.timeouts fun text htext =>
        Option.isSome_iff_ne_none.2 fun hnone => hnot _ _ (.timeout htext hnone)
    · exact hboth h.statuses fun text htext =>
        Option.isSome_iff_ne_none.2 fun hnone => hnot _ _ (.failureStatus htext hnone)
    · exact hboth h.methods fun url method range content headers hprobe =>
        Classical.byContradiction fun h => hnot _ _ (.method hprobe h)
    · exact hboth h.ranges fun url method low high content headers hprobe =>
        Nat.le_of_not_lt fun hlt => hnot _ _ (.expectedStatus hprobe hlt)

namespace Manifest

variable {m : Manifest} {net : Network}

/-- The registry of an accepted manifest lists its checks. -/
theorem listed_registry {g : Registry} (h : m.registry net = .ok g) :
    List.Forall₂ CheckItem.ListedAs m.checks g.registrations :=
  (registry_ok h).imp fun _ _ => CheckItem.listedAs_of_registration

theorem names_registry {g : Registry} (h : m.registry net = .ok g) :
    g.names = m.checks.map (·.name) := by
  have hsame : ∀ {items : List CheckItem} {rs : List Registration},
      List.Forall₂ CheckItem.ListedAs items rs → rs.map (·.name) = items.map (·.name) := by
    intro items rs hlisted
    induction hlisted with
    | nil => rfl
    | cons hr _ ih => rw [List.map_cons, List.map_cons, ih, hr.name]
  exact hsame (listed_registry h)

theorem registry_concat (checks : List CheckItem) (item : CheckItem) (webhooks : List Webhook) :
    registry ⟨checks ++ [item], webhooks⟩ net =
      registry ⟨checks, webhooks⟩ net >>= fun g => g.addItem net item := by
  simp only [registry, List.foldlM_append, List.foldlM_cons, List.foldlM_nil, bind_pure]

theorem addItem_eq_ok_iff {g : Registry} {item : CheckItem} :
    (∃ g', g.addItem net item = .ok g') ↔ ∀ flaw e, ¬ item.Faulty g.names flaw e := by
  rw [exists_eq_ok_iff_of_firstFault fun e => Registry.addItem_eq_error_iff]
  have hmem : ∀ flaw, flaw ∈ CheckItem.Flaw.order := by
    intro flaw
    cases flaw <;> decide
  exact ⟨fun h flaw => h flaw (hmem flaw), fun h flaw _ => h flaw⟩

/-- A manifest is accepted exactly when its checks are in order. -/
theorem registry_eq_ok_iff : (∃ g, m.registry net = .ok g) ↔ ValidChecks m.checks := by
  obtain ⟨checks, webhooks⟩ := m
  -- By induction on the checks from the last one back: each is judged by the names before it.
  induction checks using List.reverseRecOn with
  | nil => exact ⟨fun _ => ⟨by simp, .nil, by simp, by simp, by simp, by simp⟩, fun _ => ⟨_, rfl⟩⟩
  | append_singleton checks item ih =>
    simp only [registry_concat, bind_eq_ok_iff]
    rw [validChecks_concat, ← ih]
    constructor
    · rintro ⟨g', g, hg, hitem⟩
      have hnot := addItem_eq_ok_iff.1 ⟨g', hitem⟩
      rw [names_registry hg] at hnot
      exact ⟨⟨g, hg⟩, hnot⟩
    · rintro ⟨⟨g, hg⟩, hnot⟩
      rw [← names_registry hg] at hnot
      obtain ⟨g', hitem⟩ := addItem_eq_ok_iff.2 hnot
      exact ⟨g', g, hg, hitem⟩

/-- The registry of a manifest exists exactly when all checks are in order: each has a name, no two have the
same, and what is given of timeouts, failure statuses, methods and ranges of codes has a meaning. It then
lists the checks in the order of the manifest. Otherwise the first check that does not fit to the valid ones
before it is blamed, for the first of its flaws. -/
theorem registry_blames_first (m : Manifest) (net : Network) :
    ((∃ g, m.registry net = .ok g) ↔ ValidChecks m.checks) ∧
      (∀ g, m.registry net = .ok g → List.Forall₂ CheckItem.ListedAs m.checks g.registrations) ∧
      ∀ e, m.registry net = .error e ↔ ∃ before item after, m.checks = before ++ item :: after ∧
        ValidChecks before ∧
        FirstFault [.method, .expectedStatus, .timeout, .failureStatus, .blankName, .duplicateName]
          (item.Faulty (before.map (·.name))) e := by
  refine ⟨registry_eq_ok_iff, fun g => listed_registry, fun e => ?_⟩
  refine foldlM_eq_error_iff.trans ?_
  constructor
  · rintro ⟨before, item, after, g, hchecks, hg, he⟩
    have hbefore : registry ⟨before, []⟩ net = .ok g := hg
    have hfirst := Registry.addItem_eq_error_iff.1 he
    rw [names_registry hbefore] at hfirst
    exact ⟨before, item, after, hchecks, registry_eq_ok_iff.1 ⟨g, hbefore⟩, hfirst⟩
  · rintro ⟨before, item, after, hchecks, hvalid, hfirst⟩
    obtain ⟨g, hbefore⟩ := (@registry_eq_ok_iff ⟨before, []⟩ net).2 hvalid
    refine ⟨before, item, after, g, hchecks, hbefore, Registry.addItem_eq_error_iff.2 ?_⟩
    rw [names_registry hbefore]
    exact hfirst

/-- Two checks, of which the second has a range of codes the wrong way round and a timeout that means
nothing. -/
def reversed : Manifest where
  checks := [
    { name := "db", timeout := some "5s", failureStatus := some "degraded", tags := ["ready"]
      probe := .tcp "db" 5432 },
    { name := "api", timeout := some "soon", failureStatus := none, tags := []
      probe := .http "http://api" (some "get") (some (299, 200)) none .empty }]

theorem registry_blames_first_reversed : reversed.registry .isolated = .error
    (.invalid "check 'api' expected_status" "[299, 200]" "min must not exceed max") := by
  obtain ⟨-, -, herror⟩ := registry_blames_first reversed .isolated
  have hget : CheckItem.IsMethod "get" := ⟨by decide, List.all_eq_true.1 (by decide)⟩
  refine (herror _).2 ⟨[_], _, [], rfl, ?_, [.method], .expectedStatus, _, rfl, ?_, ?_⟩
  · exact registry_eq_ok_iff.1 (⟨_, rfl⟩ : ∃ g, registry ⟨[_], []⟩ .isolated = .ok g)
  · have hrange : "[" ++ Numeral.text 299 ++ ", " ++ Numeral.text 200 ++ "]" = "[299, 200]" := by
      decide +kernel
    rw [← hrange]
    exact .expectedStatus rfl (by decide)
  · intro flaw hflaw e hfault
    obtain rfl := List.mem_singleton.1 hflaw
    cases hfault with
    | method hprobe hnot =>
      cases hprobe
      exact hnot hget

end Manifest

end HealthWatch
