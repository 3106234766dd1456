import HealthWatch.Proofs.Configuration
import HealthWatch.Startup
/-!
# Which environments are accepted

A variable counts when it is set to a text that is not blank. `Environment.Yields` says which settings the
variables then give, and `Settings.Faulty` when a variable is at fault. `Settings.read_eq_ok_iff` and
`Settings.read_eq_error_iff` sum up the reading of the settings: it gives what the variables give, or it fails
with the first fault in the order of `Settings.judged`. `Settings.read_blames_first` adds what follows for
accepted settings.
-/

namespace HealthWatch

/-! ## What the variables say -/

namespace Environment

/-- A variable is set to a text that is not blank. -/
def Sets (env : Environment) (key text : String) : Prop :=
  env key = some text ∧ Text.trim text.toList ≠ []

/-- A value is the one that a variable gives by what its text means, or else the default. -/
inductive Gives {α : Type} (env : Environment) (key : String) (means : String → α → Prop)
    (default : α) : α → Prop
  | unset (h : ∀ text, ¬ env.Sets key text) : Gives env key means default default
  | given {text : String} {a : α} (h : env.Sets key text) (hmeans : means text a) :
    Gives env key means default a

/-- A duration is the one that a variable gives, or else the default. -/
def Takes (env : Environment) (key : String) (default d : Duration) : Prop :=
  env.Gives key (fun text d => Duration.read? text.toList = some d) default d

/-- Settings are the ones that the variables give, or else the defaults. -/
structure Yields (env : Environment) (st : Settings) : Prop where
  name : env.Gives "CHECKUP_NAME" Eq "checkup" st.name
  port : env.Gives "CHECKUP_PORT"
    (fun text n => Numeral.Denotes (Text.trim text.toList) n ∧ n ≤ 65535) 8080 st.port
  manifestPath : env.Gives "CHECKUP_CHECKS_FILE" Eq "checkup.toml" st.manifestPath
  defaultTimeout : env.Takes "CHECKUP_DEFAULT_TIMEOUT" (.ofSecs 30) st.defaultTimeout
  evaluationTimeout : env.Takes "CHECKUP_EVALUATION_TIMEOUT" (st.defaultTimeout.add (.ofSecs 5))
    st.evaluationTimeout
  publishDelay : env.Takes "CHECKUP_PUBLISH_DELAY" (.ofSecs 5) st.publishDelay
  publishPeriod : env.Takes "CHECKUP_PUBLISH_PERIOD" (.ofSecs 30) st.publishPeriod
  pushgatewayUrl : env.Gives "CHECKUP_PUSHGATEWAY_URL" (fun text url => some text = url) none
    st.pushgatewayUrl
  pushgatewayJob : env.Gives "CHECKUP_PUSHGATEWAY_JOB" Eq "checkup" st.pushgatewayJob
  pushgatewayInstance : env.Gives "CHECKUP_PUSHGATEWAY_INSTANCE" (fun text name => some text = name)
    none st.pushgatewayInstance
  minNotificationInterval : env.Takes "CHECKUP_MIN_NOTIFICATION_INTERVAL" (.ofSecs 600)
    st.minNotificationInterval

/-- The settings of an environment can be read: the port is a number of 16 bits, the durations have a
meaning, and the deadline of evaluations is longer than the default timeout. -/
structure Acceptable (env : Environment) : Prop where
  port : ∀ text, env.Sets Settings.Variable.port.key text →
    ∃ n, Numeral.Denotes (Text.trim text.toList) n ∧ n ≤ 65535
  durations : ∀ v : Settings.Variable, v ≠ .port → ∀ text, env.Sets v.key text →
    (Duration.read? text.toList).isSome = true
  longer : ∀ d e, env.Takes "CHECKUP_DEFAULT_TIMEOUT" (.ofSecs 30) d →
    env.Takes "CHECKUP_EVALUATION_TIMEOUT" (d.add (.ofSecs 5)) e → d < e

end Environment

namespace Settings

/-- A variable is at fault, and it is reported in some way. -/
inductive Faulty (env : Environment) : Variable → ConfigFault → Prop
  | port {text : String} {fault : Numeral.Fault} (h : env.Sets Variable.port.key text)
      (hread : Numeral.read 65535 (Text.trim text.toList) = .error fault) :
    Faulty env .port (.invalid Variable.port.key text fault.message)
  | duration {v : Variable} {text : String} (hv : v ≠ .port) (h : env.Sets v.key text)
      (hread : Duration.read? text.toList = none) :
    Faulty env v (.invalid v.key text "expected a non-zero duration like 30s, 5m or 2h")
  | tooShort {d e : Duration} (hd : env.Takes "CHECKUP_DEFAULT_TIMEOUT" (.ofSecs 30) d)
      (he : env.Takes "CHECKUP_EVALUATION_TIMEOUT" (d.add (.ofSecs 5)) e) (h : e ≤ d) :
    Faulty env .evaluationTimeout (.invalid Variable.evaluationTimeout.key (inMillis e)
      ("must be longer than " ++ Variable.defaultTimeout.key ++ " (" ++ inMillis d ++ ")"))

variable {env : Environment} {v : Variable} {default d e : Duration} {st : Settings}
  {fault : ConfigFault}

/-! ## One variable -/

theorem value?_eq_some_iff {key text : String} : value? env key = some text ↔ env.Sets key text := by
  rw [value?, Option.filter_eq_some_iff, Environment.Sets, Ne, Text.trim_eq_nil_iff]
  simp

theorem value?_eq_none_iff {key : String} : value? env key = none ↔ ∀ text, ¬ env.Sets key text := by
  rw [Option.eq_none_iff_forall_ne_some]
  exact forall_congr' fun text => not_congr value?_eq_some_iff

theorem gives_iff {α : Type} {key : String} {means : String → α → Prop} {default a : α} :
    env.Gives key means default a ↔ (value? env key = none ∧ default = a) ∨
      ∃ text, value? env key = some text ∧ means text a := by
  constructor
  · rintro (hnone | ⟨htext, hmeans⟩)
    · exact .inl ⟨value?_eq_none_iff.2 hnone, rfl⟩
    · exact .inr ⟨_, value?_eq_some_iff.2 htext, hmeans⟩
  · rintro (⟨hnone, rfl⟩ | ⟨text, htext, hmeans⟩)
    · exact .unset (value?_eq_none_iff.1 hnone)
    · exact .given (value?_eq_some_iff.1 htext) hmeans

/-- A setting that is a text of its own, or else the default. -/
theorem getD_value?_eq_iff {key default text : String} :
    (value? env key).getD default = text ↔ env.Gives key Eq default text := by
  rw [gives_iff]
  cases value? env key <;> simp

/-- A setting that is a text of its own, if there is any. -/
theorem value?_eq_iff {key : String} {text? : Option String} :
    value? env key = text? ↔ env.Gives key (fun text text? => some text = text?) none text? := by
  rw [gives_iff]
  cases value? env key <;> simp

theorem readPort_eq_ok_iff {n : Nat} : readPort env = .ok n ↔ env.Gives "CHECKUP_PORT"
    (fun text n => Numeral.Denotes (Text.trim text.toList) n ∧ n ≤ 65535) 8080 n := by
  simp only [gives_iff, readPort, Variable.key, Numeral.greatest16, ← Numeral.read_eq_ok_iff]
  cases value? env "CHECKUP_PORT" with
  | none => simp [defaultPort]
  | some text =>
    simp only [reduceCtorEq, false_and, false_or, Option.some.injEq, exists_eq_left']
    cases Numeral.read 65535 (Text.trim text.toList) <;> simp

theorem readDuration_eq_ok_iff : readDuration env v default = .ok d ↔ env.Takes v.key default d := by
  simp only [Environment.Takes, gives_iff, readDuration]
  cases value? env v.key with
  | none => simp
  | some text =>
    simp only [reduceCtorEq, false_and, false_or, Option.some.injEq, exists_eq_left']
    cases Duration.read? text.toList <;> simp

theorem readPort_eq_error_iff : readPort env = .error fault ↔ Faulty env .port fault := by
  unfold readPort
  constructor
  · intro h
    split at h
    · cases h
    · next text htext =>
      split at h
      · cases h
      · next hread =>
        cases h
        exact .port (value?_eq_some_iff.1 htext) hread
  · intro h
    cases h with
    | port htext hread =>
      rw [value?_eq_some_iff.2 htext]
      simp only [Numeral.greatest16, hread]
    | duration hv => exact absurd rfl hv

theorem faulty_of_readDuration (hv : v ≠ .port) (h : readDuration env v default = .error fault) :
    Faulty env v fault := by
  unfold readDuration at h
  split at h
  · cases h
  · next text htext =>
    split at h
    · cases h
    · next hread =>
      cases h
      exact .duration hv (value?_eq_some_iff.1 htext) hread

theorem readDuration_of_malformed {text : String} (h : env.Sets v.key text)
    (hread : Duration.read? text.toList = none) : readDuration env v default =
      .error (.invalid v.key text "expected a non-zero duration like 30s, 5m or 2h") := by
  unfold readDuration
  rw [value?_eq_some_iff.2 h]
  simp only [hread]

theorem readDuration_eq_error_iff (hv : v ≠ .port) (hshort : v ≠ .evaluationTimeout) :
    readDuration env v default = .error fault ↔ Faulty env v fault := by
  refine ⟨faulty_of_readDuration hv, fun h => ?_⟩
  cases h with
  | port => exact absurd rfl hv
  | duration _ htext hread => exact readDuration_of_malformed htext hread
  | tooShort => exact absurd rfl hshort

theorem readEvaluationTimeout_eq_ok_iff : readEvaluationTimeout env d = .ok e ↔
    env.Takes "CHECKUP_EVALUATION_TIMEOUT" (d.add (.ofSecs 5)) e ∧ d < e := by
  unfold readEvaluationTimeout
  rw [bind_eq_ok_iff]
  constructor
  · rintro ⟨e', he', h⟩
    split at h
    · next hlt =>
      cases h
      exact ⟨readDuration_eq_ok_iff.1 he', hlt⟩
    · cases h
  · rintro ⟨he, hlt⟩
    exact ⟨e, readDuration_eq_ok_iff.2 he, if_pos hlt⟩

theorem readEvaluationTimeout_eq_error_iff (hd : env.Takes "CHECKUP_DEFAULT_TIMEOUT" (.ofSecs 30) d) :
    readEvaluationTimeout env d = .error fault ↔ Faulty env .evaluationTimeout fault := by
  unfold readEvaluationTimeout
  rw [bind_eq_error_iff]
  constructor
  · rintro (h | ⟨e, he, h⟩)
    · exact faulty_of_readDuration (by decide) h
    · split at h
      · cases h
      · next hlt =>
        cases h
        exact .tooShort hd (readDuration_eq_ok_iff.1 he) (Nat.le_of_not_lt hlt)
  · intro h
    cases h with
    | duration _ htext hread => exact .inl (readDuration_of_malformed htext hread)
    | @tooShort d' e hd' he hle =>
      -- The variables give one default timeout only.
      have hread : readDuration env .defaultTimeout (.ofSecs 30) = .ok d := readDuration_eq_ok_iff.2 hd
      have hread' : readDuration env .defaultTimeout (.ofSecs 30) = .ok d' :=
        readDuration_eq_ok_iff.2 hd'
      obtain rfl := Except.ok.inj (hread'.symm.trans hread)
      exact .inr ⟨e, readDuration_eq_ok_iff.2 he, if_neg (Nat.not_lt.2 hle)⟩

/-! ## All variables, in their order -/

/-- The settings are refused for the first fault of their variables. -/
theorem read_eq_error_iff : read env = .error fault ↔ FirstFault judged (Faulty env) fault := by
  refine bind_eq_error_iff_cons (fun _ => readPort_eq_error_iff) fun port _ => ?_
  refine bind_eq_error_iff_cons
    (fun _ => readDuration_eq_error_iff (by decide) (by decide)) fun d hd => ?_
  refine bind_eq_error_iff_cons
    (fun _ => readEvaluationTimeout_eq_error_iff (readDuration_eq_ok_iff.1 hd)) fun deadline _ => ?_
  refine bind_eq_error_iff_cons
    (fun _ => readDuration_eq_error_iff (by decide) (by decide)) fun delay _ => ?_
  refine bind_eq_error_iff_cons
    (fun _ => readDuration_eq_error_iff (by decide) (by decide)) fun period _ => ?_
  refine bind_eq_error_iff_cons
    (fun _ => readDuration_eq_error_iff (by decide) (by decide)) fun interval _ => ?_
  exact ⟨fun h => (nomatch h), fun h => absurd h not_firstFault_nil⟩

/-- An environment is acceptable exactly when none of its variables is at fault. -/
theorem acceptable_iff : env.Acceptable ↔ ∀ v ∈ judged, ∀ fault, ¬ Faulty env v fault := by
  constructor
  · intro h v _ fault hfault
    cases hfault with
    | port htext hread =>
      obtain ⟨n, hn⟩ := h.port _ htext
      rw [Numeral.read_eq_ok_iff.2 hn] at hread
      cases hread
    | duration hv htext hread =>
      have hsome := h.durations v hv _ htext
      rw [hread] at hsome
      cases hsome
    | tooShort hd he hle => exact Nat.not_lt.2 hle (h.longer _ _ hd he)
  · intro hnot
    have hmem : ∀ v, v ∈ judged := by
      intro v
      cases v <;> decide
    refine ⟨fun text htext => ?_, fun v hv text htext => ?_, fun d e hd he => ?_⟩
    · cases hread : Numeral.read 65535 (Text.trim text.toList) with
      | ok n => exact ⟨n, Numeral.read_eq_ok_iff.1 hread⟩
      | error fault => exact absurd (.port htext hread) (hnot _ (hmem _) _)
    · exact Option.isSome_iff_ne_none.2 fun hnone =>
        hnot v (hmem v) _ (.duration hv htext hnone)
    · exact Nat.lt_of_not_le fun hle => hnot _ (hmem _) _ (.tooShort hd he hle)

theorem exists_read_eq_ok_iff : (∃ st, read env = .ok st) ↔ env.Acceptable :=
  (exists_eq_ok_iff_of_firstFault fun _ => read_eq_error_iff).trans acceptable_iff.symm

/-- The settings that are read are the ones that the variables give, with a deadline of evaluations that is
longer than the default timeout. -/
theorem read_eq_ok_iff :
    read env = .ok st ↔ env.Yields st ∧ st.defaultTimeout < st.evaluationTimeout := by
  constructor
  · intro h
    obtain ⟨hport, htimeout, hdeadline, hdelay, hperiod, hinterval⟩ := read_ok h
    obtain ⟨hdeadline, hlonger⟩ := readEvaluationTimeout_eq_ok_iff.1 hdeadline
    simp only [read, bind_eq_ok_iff] at h
    obtain ⟨_, -, _, -, _, -, _, -, _, -, _, -, h⟩ := h
    cases h
    exact ⟨⟨getD_value?_eq_iff.1 rfl, readPort_eq_ok_iff.1 hport, getD_value?_eq_iff.1 rfl,
      readDuration_eq_ok_iff.1 htimeout, hdeadline, readDuration_eq_ok_iff.1 hdelay,
      readDuration_eq_ok_iff.1 hperiod, value?_eq_iff.1 rfl, getD_value?_eq_iff.1 rfl,
      value?_eq_iff.1 rfl, readDuration_eq_ok_iff.1 hinterval⟩, hlonger⟩
  · rintro ⟨h, hlonger⟩
    simp only [read, bind_eq_ok_iff]
    refine ⟨_, readPort_eq_ok_iff.2 h.port, _, readDuration_eq_ok_iff.2 h.defaultTimeout,
      _, readEvaluationTimeout_eq_ok_iff.2 ⟨h.evaluationTimeout, hlonger⟩,
      _, readDuration_eq_ok_iff.2 h.publishDelay, _, readDuration_eq_ok_iff.2 h.publishPeriod,
      _, readDuration_eq_ok_iff.2 h.minNotificationInterval, ?_⟩
    have hname : (value? env nameKey).getD defaultName = _ := getD_value?_eq_iff.2 h.name
    have hpath : (value? env manifestKey).getD defaultManifest = _ :=
      getD_value?_eq_iff.2 h.manifestPath
    have hurl : value? env gatewayUrlKey = _ := value?_eq_iff.2 h.pushgatewayUrl
    have hjob : (value? env gatewayJobKey).getD defaultName = _ :=
      getD_value?_eq_iff.2 h.pushgatewayJob
    have hinstance : value? env gatewayInstanceKey = _ := value?_eq_iff.2 h.pushgatewayInstance
    rw [hname, hpath, hurl, hjob, hinstance]
    rfl

/-- What is not one of the variables of the settings, or is blank, does not matter. -/
theorem read_congr {env' : Environment}
    (h : ∀ key ∈ keys, ∀ text, env.Sets key text ↔ env'.Sets key text) : read env = read env' := by
  have hvalue : ∀ key ∈ keys, value? env key = value? env' key := by
    intro key hkey
    refine Option.ext fun text => ?_
    rw [value?_eq_some_iff, value?_eq_some_iff]
    exact h key hkey text
  have hjudged : ∀ v : Variable, value? env v.key = value? env' v.key := by
    intro v
    refine hvalue _ (List.mem_append_right _ (List.mem_map_of_mem ?_))
    cases v <;> decide
  have hduration : ∀ v default, readDuration env v default = readDuration env' v default := by
    intro v default
    unfold readDuration
    rw [hjudged]
  have hport : readPort env = readPort env' := by
    unfold readPort
    rw [hjudged]
  unfold read readEvaluationTimeout
  simp only [hport, hduration, hvalue nameKey (by decide), hvalue manifestKey (by decide),
    hvalue gatewayUrlKey (by decide), hvalue gatewayJobKey (by decide),
    hvalue gatewayInstanceKey (by decide)]

/-! ## The durations of accepted settings -/

end Settings

/-- A duration is a positive number of whole milliseconds, within a number of nanoseconds. -/
structure Duration.Usable (most : Nat) (d : Duration) : Prop where
  pos : 0 < d.nanos
  whole : d.WholeMillis
  le : d.nanos ≤ most

theorem Duration.Usable.mono {d : Duration} {most most' : Nat} (h : d.Usable most)
    (hle : most ≤ most') : d.Usable most' :=
  ⟨h.pos, h.whole, Nat.le_trans h.le hle⟩

theorem Duration.usable_of_read? {cs : List Char} {d : Duration} (h : read? cs = some d) :
    d.Usable (168 * 60 * 60 * 1_000_000_000) := by
  obtain ⟨hpos, hwhole⟩ := read?_eq_some h
  obtain ⟨n, -, hn, hd⟩ := exists_millis_of_read? h
  exact ⟨hpos, hwhole, by omega⟩

namespace Settings

variable {env : Environment} {v : Variable} {default d : Duration} {st : Settings} {most : Nat}

theorem usable_of_takes {key : String} (hmost : 168 * 60 * 60 * 1_000_000_000 ≤ most)
    (hdefault : default.Usable most) (h : env.Takes key default d) : d.Usable most := by
  cases h with
  | unset => exact hdefault
  | given _ hread => exact (Duration.usable_of_read? hread).mono hmost

/-- The deadline that goes by default with a default timeout is five seconds longer, nothing less. -/
theorem nanos_add_extraTime (h : d.Usable (168 * 60 * 60 * 1_000_000_000)) :
    (d.add (.ofSecs 5)).nanos = d.nanos + 5_000_000_000 := by
  have hle := h.le
  have hmax : d.nanos + 5_000_000_000 ≤ Duration.maxNanos := by
    unfold Duration.maxNanos
    omega
  exact Duration.nanos_ofNanos hmax

theorem usable_of_yields (h : env.Yields st) :
    st.defaultTimeout.Usable (168 * 60 * 60 * 1_000_000_000) ∧
      st.evaluationTimeout.Usable ((168 * 60 * 60 + 5) * 1_000_000_000) ∧
      st.publishDelay.Usable (168 * 60 * 60 * 1_000_000_000) ∧
      st.publishPeriod.Usable (168 * 60 * 60 * 1_000_000_000) ∧
      st.minNotificationInterval.Usable (168 * 60 * 60 * 1_000_000_000) := by
  have htimeout := usable_of_takes (Nat.le_refl _) ⟨by decide, by decide, by decide⟩ h.defaultTimeout
  refine ⟨htimeout, usable_of_takes (by omega) ?_ h.evaluationTimeout,
    usable_of_takes (Nat.le_refl _) ⟨by decide, by decide, by decide⟩ h.publishDelay,
    usable_of_takes (Nat.le_refl _) ⟨by decide, by decide, by decide⟩ h.publishPeriod,
    usable_of_takes (Nat.le_refl _) ⟨by decide, by decide, by decide⟩ h.minNotificationInterval⟩
  -- Five seconds more than a usable default timeout are usable.
  have hsum := nanos_add_extraTime htimeout
  have hwhole := htimeout.whole
  have hle := htimeout.le
  unfold Duration.WholeMillis at hwhole
  refine ⟨by omega, ?_, by omega⟩
  unfold Duration.WholeMillis
  omega

/-- Settings are read from an environment exactly when it is acceptable, and otherwise the first variable at
fault is blamed. The settings are those that the variables give or else the defaults, with a deadline of
evaluations that is longer than the default timeout. The durations are positive, of whole milliseconds and of a
week and five seconds at most, so that the deadline which goes by default with the default timeout is not cut
off, and publishing never meets a period of zero. Blank variables and those that are none of the settings do
not matter. -/
theorem read_blames_first (env : Environment) :
    ((∃ st, read env = .ok st) ↔ env.Acceptable) ∧
      (∀ st, read env = .ok st ↔ env.Yields st ∧ st.defaultTimeout < st.evaluationTimeout) ∧
      (∀ fault, read env = .error fault ↔
        FirstFault [.port, .defaultTimeout, .evaluationTimeout, .publishDelay, .publishPeriod,
          .minNotificationInterval] (Faulty env) fault) ∧
      (∀ st, read env = .ok st →
        (∀ d ∈ [st.defaultTimeout, st.evaluationTimeout, st.publishDelay, st.publishPeriod,
          st.minNotificationInterval], d.Usable ((168 * 60 * 60 + 5) * 1_000_000_000)) ∧
        (st.defaultTimeout.add (.ofSecs 5)).nanos = st.defaultTimeout.nanos + 5_000_000_000 ∧
        ∀ g publishers now shutdownAt,
          ((st.service g publishers).broadcaster.rounds? now shutdownAt).isSome = true) ∧
      ∀ env' : Environment, (∀ key ∈ keys, ∀ text, env.Sets key text ↔ env'.Sets key text) →
        read env = read env' := by
  refine ⟨exists_read_eq_ok_iff, fun st => read_eq_ok_iff, fun fault => read_eq_error_iff,
    fun st hst => ?_, fun env' => read_congr⟩
  obtain ⟨htimeout, hdeadline, hdelay, hperiod, hinterval⟩ :=
    usable_of_yields (read_eq_ok_iff.1 hst).1
  refine ⟨?_, nanos_add_extraTime htimeout, ?_⟩
  · simp only [List.forall_mem_cons]
    exact ⟨htimeout.mono (by omega), hdeadline, hdelay.mono (by omega), hperiod.mono (by omega),
      hinterval.mono (by omega), List.forall_mem_nil _⟩
  · intro g publishers now shutdownAt
    unfold Broadcaster.rounds?
    rw [if_neg]
    · rfl
    · exact Nat.ne_of_gt hperiod.pos

/-- A deadline that is not longer than the default timeout, before a period of zero. -/
def hasty : Environment := fun key =>
  [("CHECKUP_PORT", " "), ("CHECKUP_DEFAULT_TIMEOUT", "10s"), ("CHECKUP_EVALUATION_TIMEOUT", "10s"),
    ("CHECKUP_PUBLISH_PERIOD", "0s")].lookup key

/-- Variables that are set, blank or unset. -/
def patient : Environment := fun key =>
  [("CHECKUP_NAME", "site"), ("CHECKUP_PORT", " 9000 "), ("CHECKUP_DEFAULT_TIMEOUT", "2m"),
    ("CHECKUP_EVALUATION_TIMEOUT", " "), ("CHECKUP_PUBLISH_PERIOD", "168h"),
    ("CHECKUP_PUSHGATEWAY_URL", "http://g"), ("CHECKUP_PUSHGATEWAY_JOB", "")].lookup key

theorem read_blames_first_hasty :
    read hasty = .error (.invalid "CHECKUP_EVALUATION_TIMEOUT"
      "10000ms" "must be longer than CHECKUP_DEFAULT_TIMEOUT (10000ms)") ∧
    read patient = .ok {
      name := "site"
      port := 9000
      manifestPath := "checkup.toml"
      defaultTimeout := .ofSecs 120
      evaluationTimeout := .ofSecs 125
      publishDelay := .ofSecs 5
      publishPeriod := .ofSecs 604800
      pushgatewayUrl := some "http://g"
      pushgatewayJob := "checkup"
      pushgatewayInstance := none
      minNotificationInterval := .ofSecs 600 } := by
  obtain ⟨-, -, herror, -⟩ := read_blames_first hasty
  obtain ⟨-, hok, -⟩ := read_blames_first patient
  refine ⟨?_, (hok _).2 ⟨?_, by decide⟩⟩
  · have hseconds : Duration.read? "10s".toList = some (.ofSecs 10) := by decide
    have htimeout : hasty.Sets "CHECKUP_DEFAULT_TIMEOUT" "10s" := ⟨rfl, by decide⟩
    have hdeadline : hasty.Sets "CHECKUP_EVALUATION_TIMEOUT" "10s" := ⟨rfl, by decide⟩
    have htext : inMillis (.ofSecs 10) = "10000ms" := by decide +kernel
    have hmessage : "must be longer than " ++ Variable.defaultTimeout.key ++ " (" ++
        inMillis (.ofSecs 10) ++ ")" = "must be longer than CHECKUP_DEFAULT_TIMEOUT (10000ms)" := by
      decide +kernel
    refine (herror _).2 ⟨[.port, .defaultTimeout], .evaluationTimeout, _, rfl, ?_, ?_⟩
    · have hfaulty : Faulty hasty .evaluationTimeout _ :=
        .tooShort (.given htimeout hseconds) (.given hdeadline hseconds) (Nat.le_refl _)
      rwa [hmessage, htext] at hfaulty
    · intro v hv fault hfault
      cases hfault with
      | port hset =>
        obtain ⟨hport, hblank⟩ := hset
        cases hport
        exact hblank (by decide)
      | duration _ hset hread =>
        obtain rfl : v = .defaultTimeout := by simp_all
        obtain rfl := Option.some.inj (htimeout.1.symm.trans hset.1)
        rw [hseconds] at hread
        cases hread
      | tooShort => simp at hv
  · have hblank : ∀ {key}, (∀ text ∈ patient key, Text.trim text.toList = []) →
        ∀ text, ¬ patient.Sets key text := fun h text hset => hset.2 (h text hset.1)
    have hport : patient.Sets "CHECKUP_PORT" " 9000 " := ⟨rfl, by decide⟩
    have htimeout : patient.Sets "CHECKUP_DEFAULT_TIMEOUT" "2m" := ⟨rfl, by decide⟩
    have hperiod : patient.Sets "CHECKUP_PUBLISH_PERIOD" "168h" := ⟨rfl, by decide⟩
    have hdecimal : Numeral.decimal 9000 = "9000".toList := by decide +kernel
    have hnumeral : Numeral.Denotes "9000".toList 9000 := hdecimal ▸ Numeral.denotes_decimal 9000
    exact {
      name := .given ⟨rfl, by decide⟩ rfl
      port := .given hport ⟨hnumeral, by decide⟩
      manifestPath := .unset (hblank (by decide))
      defaultTimeout := .given htimeout (by decide)
      evaluationTimeout := .unset (hblank (by decide))
      publishDelay := .unset (hblank (by decide))
      publishPeriod := .given hperiod (by decide)
      pushgatewayUrl := .given ⟨rfl, by decide⟩ rfl
      pushgatewayJob := .unset (hblank (by decide))
      pushgatewayInstance := .unset (hblank (by decide))
      minNotificationInterval := .unset (hblank (by decide)) }

end Settings

end HealthWatch
