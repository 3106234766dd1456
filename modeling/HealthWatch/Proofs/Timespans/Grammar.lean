import HealthWatch.Proofs.Readings
import HealthWatch.Timespan
import Mathlib.Algebra.Group.Nat.Defs
/-!
# The grammar of timespans

`Written` says which texts are timespans, part by part: days, a clock and a fraction. Reading takes a text
apart from both ends, since a dot may belong to the days or to the fraction; `readFields_eq_some_iff` says
that it finds the parts of the grammar and accepts nothing else. What becomes of the fields then depends on
whether their seconds fit into 64 bits (`parse_cases`).
-/

/-! ## How great a numeral is -/

namespace HealthWatch.Numeral

theorem foldl_digits_lt {ds : List Char} (h : ∀ c ∈ ds, c.isDigit = true) (v : Nat) :
    ds.foldl (fun v c => 10 * v + digitValue c) v < (v + 1) * 10 ^ ds.length := by
  induction ds generalizing v with
  | nil => exact Nat.lt_of_lt_of_eq (Nat.lt_succ_self v) (Nat.mul_one _).symm
  | cons c ds ih =>
    have hc := digitValue_le (h c List.mem_cons_self)
    have hnext := ih (fun d hd => h d (List.mem_cons_of_mem c hd)) (10 * v + digitValue c)
    have hle := Nat.mul_le_mul_right (10 ^ ds.length)
      (show 10 * v + digitValue c + 1 ≤ (v + 1) * 10 by omega)
    rw [Nat.mul_assoc, Nat.mul_comm 10 (10 ^ ds.length), ← Nat.pow_succ] at hle
    exact Nat.lt_of_lt_of_le hnext hle

theorem value_lt_pow {ds : List Char} (h : ∀ c ∈ ds, c.isDigit = true) :
    value ds < 10 ^ ds.length := by
  have hlt := foldl_digits_lt h 0
  rwa [Nat.zero_add, Nat.one_mul] at hlt

end HealthWatch.Numeral

namespace HealthWatch.Timespan

/-! ## Timespans as texts -/

/-- A field of a timespan: a numeral of a number of 64 bits. -/
def Field (s : List Char) (n : Nat) : Prop := Numeral.Denotes s n ∧ n ≤ Numeral.greatest64

/-- The days of a timespan: a field with a dot after it, or nothing. -/
inductive DayPart : List Char → Nat → Prop
  | absent : DayPart [] 0
  | present {d : List Char} {days : Nat} (h : Field d days) : DayPart (d ++ ['.']) days

/-- The clock of a timespan: hours, minutes and seconds with colons between them. -/
inductive ClockPart : List Char → Nat → Nat → Nat → Prop
  | intro {h m s : List Char} {hours minutes seconds : Nat} (hh : Field h hours)
    (hm : Field m minutes) (hs : Field s seconds) (hminutes : minutes < 60) (hseconds : seconds < 60) :
    ClockPart (h ++ ':' :: (m ++ ':' :: s)) hours minutes seconds

/-- The fraction of a timespan, in nanoseconds: a dot with one to seven decimal places after it, or
nothing. -/
inductive FractionPart : List Char → Nat → Prop
  | absent : FractionPart [] 0
  | present {f : List Char} (hne : f ≠ []) (hlen : f.length ≤ 7) (hf : ∀ c ∈ f, c.isDigit = true) :
    FractionPart ('.' :: f) (Numeral.value f * 10 ^ (9 - f.length))

/-- The numbers of a timespan. -/
structure Fields where
  days : Nat
  hours : Nat
  minutes : Nat
  seconds : Nat
  nanos : Nat

/-- The whole seconds of a timespan. -/
def Fields.secs (f : Fields) : Nat :=
  f.days * 86400 + f.hours * 3600 + f.minutes * 60 + f.seconds

/-- A text is a timespan: `[days.]hours:minutes:seconds[.fraction]`. -/
inductive Written : List Char → Fields → Prop
  | intro {d c f : List Char} {days hours minutes seconds nanos : Nat} (hd : DayPart d days)
    (hc : ClockPart c hours minutes seconds) (hf : FractionPart f nanos) :
    Written (d ++ (c ++ f)) ⟨days, hours, minutes, seconds, nanos⟩

/-! ## The characters of the parts -/

variable {s rest : List Char} {days hours minutes seconds nanos secs : Nat}

theorem Field.dot_notMem {n : Nat} (h : Field s n) : '.' ∉ s := h.1.notMem rfl (by decide)

theorem Field.colon_notMem {n : Nat} (h : Field s n) : ':' ∉ s := h.1.notMem rfl (by decide)

theorem ClockPart.dot_notMem (h : ClockPart s hours minutes seconds) : '.' ∉ s := by
  obtain ⟨hh, hm, hs, -, -⟩ := h
  simp [hh.dot_notMem, hm.dot_notMem, hs.dot_notMem]

theorem ClockPart.colon_mem (h : ClockPart s hours minutes seconds) : ':' ∈ s := by
  obtain ⟨-, -, -, -, -⟩ := h
  exact List.mem_append_right _ List.mem_cons_self

theorem notMem_of_digits {f : List Char} (hf : ∀ c ∈ f, c.isDigit = true) {c : Char}
    (hc : c.isDigit = false) : c ∉ f := by
  intro hmem
  rw [hf c hmem] at hc
  cases hc

/-! ## Taking a text apart -/

theorem cutFraction_append {f : List Char} (hf : ∀ c ∈ f, c.isDigit = true) :
    cutFraction (s ++ '.' :: f) = (s, some f) := by
  have hcut : Text.cutLast '.' (s ++ '.' :: f) = some (s, f) :=
    Text.cutLast_eq_some_iff.2 ⟨rfl, notMem_of_digits hf rfl⟩
  rw [cutFraction, hcut]
  exact if_neg (notMem_of_digits hf rfl)

/-- The only dot before a clock is that of the days, and it begins no fraction. -/
theorem cutFraction_clock {d : List Char} (hd : DayPart d days)
    (hs : ClockPart s hours minutes seconds) : cutFraction (d ++ s) = (d ++ s, none) := by
  cases hd with
  | absent =>
    have hcut : Text.cutLast '.' s = none := Text.cutLast_eq_none_iff.2 hs.dot_notMem
    rw [List.nil_append, cutFraction, hcut]
  | @present d _ h =>
    have hcut : Text.cutLast '.' (d ++ '.' :: s) = some (d, s) :=
      Text.cutLast_eq_some_iff.2 ⟨rfl, hs.dot_notMem⟩
    rw [List.append_assoc, List.singleton_append, cutFraction, hcut]
    exact if_pos hs.colon_mem

theorem eq_of_cutFraction {f : Option (List Char)} (h : cutFraction s = (rest, f)) :
    s = rest ++ (f.map ('.' :: ·)).getD [] := by
  unfold cutFraction at h
  split at h
  · next head tail hcut =>
    split at h
    · cases h
      exact (List.append_nil _).symm
    · cases h
      exact (Text.cutLast_eq_some_iff.1 hcut).1
  · cases h
    exact (List.append_nil _).symm

theorem cutDays_append {d : List Char} (hd : DayPart d days) (hs : '.' ∉ s) :
    cutDays (d ++ s) = some (days, s) := by
  cases hd with
  | absent => rw [List.nil_append, cutDays, Text.cutFirst_eq_none_iff.2 hs]
  | @present d _ h =>
    have hcut : Text.cutFirst '.' (d ++ '.' :: s) = some (d, s) :=
      Text.cutFirst_eq_some_iff.2 ⟨rfl, h.dot_notMem⟩
    rw [List.append_assoc, List.singleton_append, cutDays, hcut]
    dsimp only
    rw [Numeral.read64?_eq_some_iff.2 h, Option.map_some]

theorem eq_of_cutDays (h : cutDays s = some (days, rest)) :
    ∃ d, s = d ++ rest ∧ DayPart d days := by
  unfold cutDays at h
  split at h
  · next d clock hcut =>
    obtain ⟨n, hn, heq⟩ := Option.map_eq_some_iff.1 h
    cases heq
    refine ⟨d ++ ['.'], ?_, .present (Numeral.read64?_eq_some_iff.1 hn)⟩
    rw [List.append_assoc]
    exact (Text.cutFirst_eq_some_iff.1 hcut).1
  · cases h
    exact ⟨[], rfl, .absent⟩

theorem readClock_eq_some_iff :
    readClock s = some (hours, minutes, seconds) ↔ ClockPart s hours minutes seconds := by
  constructor
  · intro h
    unfold readClock at h
    split at h
    · next a b c hfields =>
      -- The three fields make up the whole text.
      obtain ⟨_, rfl, hrest⟩ := Text.eq_of_fields_eq_cons hfields
      obtain ⟨_, rfl, hlast⟩ := Text.eq_of_fields_eq_cons hrest
      obtain rfl := Text.eq_of_fields_eq_singleton hlast
      obtain ⟨hours', ha, h⟩ := Option.bind_eq_some_iff.1 h
      obtain ⟨minutes', hb, h⟩ := Option.bind_eq_some_iff.1 h
      obtain ⟨seconds', hc, h⟩ := Option.bind_eq_some_iff.1 h
      split at h
      · next hlt =>
        cases h
        exact .intro (Numeral.read64?_eq_some_iff.1 ha) (Numeral.read64?_eq_some_iff.1 hb)
          (Numeral.read64?_eq_some_iff.1 hc) hlt.1 hlt.2
      · cases h
    · cases h
  · rintro ⟨hh, hm, hs, hminutes, hseconds⟩
    rw [readClock, Text.fields_append_cons hh.colon_notMem,
      Text.fields_append_cons hm.colon_notMem, Text.fields_of_notMem hs.colon_notMem]
    dsimp only
    rw [Numeral.read64?_eq_some_iff.2 hh, Numeral.read64?_eq_some_iff.2 hm,
      Numeral.read64?_eq_some_iff.2 hs]
    exact if_pos ⟨hminutes, hseconds⟩

/-- Zeros after the decimal places fill a fraction up to the ticks of a second. -/
theorem value_append_zeros (f : List Char) (k : Nat) :
    Numeral.value (f ++ List.replicate k '0') = Numeral.value f * 10 ^ k := by
  induction k with
  | zero => rw [List.replicate_zero, List.append_nil, Nat.pow_zero, Nat.mul_one]
  | succ k ih =>
    rw [List.replicate_succ', ← List.append_assoc, Numeral.value_append, List.foldl_cons,
      List.foldl_nil, ih, Nat.pow_succ]
    show 10 * (Numeral.value f * 10 ^ k) + 0 = _
    rw [Nat.add_zero, Nat.mul_comm, Nat.mul_assoc]

theorem readFraction_eq_some_iff {f : List Char} :
    readFraction f = some nanos ↔ FractionPart ('.' :: f) nanos := by
  have hvalue : f.length ≤ 7 → Numeral.value (f ++ List.replicate (7 - f.length) '0') * tickNanos =
      Numeral.value f * 10 ^ (9 - f.length) := by
    intro hlen
    rw [value_append_zeros, Nat.mul_assoc, tickNanos, show 9 - f.length = 7 - f.length + 2 by omega,
      Nat.pow_add]
  unfold readFraction
  constructor
  · intro h
    split at h
    · next hf =>
      obtain ⟨hne, hlen, hdigits⟩ := hf
      obtain rfl := Option.some.inj h
      rw [hvalue hlen]
      exact .present hne hlen (List.all_eq_true.1 hdigits)
    · cases h
  · rintro (_ | ⟨hne, hlen, hdigits⟩)
    rw [if_pos ⟨hne, hlen, List.all_eq_true.2 hdigits⟩, hvalue hlen]

/-! ## Whole timespans -/

/-- Reading finds the fields of the timespans, and of nothing else. -/
theorem readFields_eq_some_iff : readFields s = some (days, hours, minutes, seconds, nanos) ↔
    Written s ⟨days, hours, minutes, seconds, nanos⟩ := by
  constructor
  · intro hread
    unfold readFields at hread
    cases hcut : cutFraction s with
    | mk rest fraction =>
      rw [hcut] at hread
      obtain ⟨⟨_, clock⟩, hdays, hrest⟩ := Option.bind_eq_some_iff.1 hread
      obtain ⟨⟨_, _, _⟩, hclock, hlast⟩ := Option.bind_eq_some_iff.1 hrest
      obtain ⟨d, rfl, hd⟩ := eq_of_cutDays hdays
      rw [eq_of_cutFraction hcut, List.append_assoc]
      cases fraction with
      | none =>
        cases hlast
        exact .intro hd (readClock_eq_some_iff.1 hclock) .absent
      | some f =>
        obtain ⟨_, hf, heq⟩ := Option.bind_eq_some_iff.1 hlast
        cases heq
        exact .intro hd (readClock_eq_some_iff.1 hclock) (readFraction_eq_some_iff.1 hf)
  · rintro ⟨hd, hc, hf⟩
    unfold readFields
    cases hf with
    | absent =>
      rw [List.append_nil, cutFraction_clock hd hc]
      dsimp only
      rw [cutDays_append hd hc.dot_notMem]
      simp only [bind, Option.bind, readClock_eq_some_iff.2 hc, pure]
    | @present f hne hlen hdigits =>
      have hfraction := readFraction_eq_some_iff.2 (.present hne hlen hdigits)
      rw [← List.append_assoc, cutFraction_append hdigits]
      dsimp only
      rw [cutDays_append hd hc.dot_notMem]
      simp only [bind, Option.bind, readClock_eq_some_iff.2 hc, hfraction, pure]

theorem Written.unique {f f' : Fields} (h : Written s f) (h' : Written s f') : f = f' := by
  have hread := (readFields_eq_some_iff.2 h).symm.trans (readFields_eq_some_iff.2 h')
  cases f
  cases f'
  cases hread
  rfl

/-! ## The sum of the fields -/

section Fitting

variable {a b n : Nat} {step : Overflow}

theorem fitting_eq_ok_iff : (if a ≤ Numeral.greatest64 then .ok a else .error (.overflow step) :
    Except Fault Nat) = .ok n ↔ a = n ∧ n ≤ Numeral.greatest64 := by
  split
  · next h => exact ⟨fun heq => Except.ok.inj heq ▸ ⟨rfl, h⟩, fun heq => congrArg _ heq.1⟩
  · next h => exact ⟨fun heq => (nomatch heq), fun heq => absurd (heq.1 ▸ heq.2) h⟩

theorem times_eq_ok_iff : times a b = .ok n ↔ a * b = n ∧ n ≤ Numeral.greatest64 := fitting_eq_ok_iff

theorem plus_eq_ok_iff : plus a b = .ok n ↔ a + b = n ∧ n ≤ Numeral.greatest64 := fitting_eq_ok_iff

theorem overflow_of_fitting {e : Fault} (h : (if a ≤ Numeral.greatest64 then .ok a
    else .error (.overflow step) : Except Fault Nat) = .error e) : ∃ step, e = .overflow step := by
  split at h
  · cases h
  · exact ⟨_, (Except.error.inj h).symm⟩

end Fitting

/-- The sum is computed exactly when it fits: then every step before the last fits too. -/
theorem totalSecs_eq_ok_iff : totalSecs days hours minutes seconds = .ok secs ↔
    days * daySecs + hours * 3600 + minutes * 60 + seconds = secs ∧ secs ≤ Numeral.greatest64 := by
  simp only [totalSecs, bind_eq_ok_iff, times_eq_ok_iff, plus_eq_ok_iff]
  constructor
  · rintro ⟨_, ⟨rfl, -⟩, _, ⟨rfl, -⟩, _, ⟨rfl, -⟩, _, ⟨rfl, -⟩, _, ⟨rfl, -⟩, h⟩
    exact h
  · rintro ⟨rfl, h⟩
    refine ⟨_, ⟨rfl, ?_⟩, _, ⟨rfl, ?_⟩, _, ⟨rfl, ?_⟩, _, ⟨rfl, ?_⟩, _, ⟨rfl, ?_⟩, rfl, h⟩ <;> omega

theorem overflow_of_totalSecs {e : Fault} (h : totalSecs days hours minutes seconds = .error e) :
    ∃ step, e = .overflow step := by
  simp only [totalSecs, bind_eq_error_iff] at h
  rcases h with h | ⟨_, -, h | ⟨_, -, h | ⟨_, -, h | ⟨_, -, h | ⟨_, -, h⟩⟩⟩⟩⟩
  all_goals exact overflow_of_fitting h

/-! ## Reading timespans -/

/-- The duration of a timespan, which the fields determine. -/
def Fields.duration (f : Fields) : Duration := .ofParts f.secs f.nanos

theorem FractionPart.nanos_lt (h : FractionPart s nanos) : nanos < 1_000_000_000 := by
  cases h with
  | absent => decide
  | @present f hne hlen hf =>
    have hlt := Nat.mul_lt_mul_of_pos_right (Numeral.value_lt_pow hf)
      (Nat.pow_pos (by decide : 0 < 10) : 0 < 10 ^ (9 - f.length))
    rwa [← Nat.pow_add, Nat.add_sub_cancel' (by omega)] at hlt

theorem Written.nanos_duration {f : Fields} (h : Written s f) (hsecs : f.secs ≤ Numeral.greatest64) :
    f.duration.nanos = f.secs * 1_000_000_000 + f.nanos := by
  obtain ⟨-, -, hf⟩ := h
  have hlt := hf.nanos_lt
  refine Duration.nanos_ofNanos ?_
  unfold Duration.maxNanos
  unfold Numeral.greatest64 at hsecs
  dsimp only at hlt ⊢
  omega

/-- What a text is read as: it is no timespan, or one that fits, or one that is too long. -/
theorem parse_cases (s : List Char) :
    ((¬ ∃ f, Written s f) ∧ parse s = .error .malformed) ∨
      ∃ f, Written s f ∧
        (f.secs ≤ Numeral.greatest64 ∧ parse s = .ok f.duration ∨
          Numeral.greatest64 < f.secs ∧ ∃ step, parse s = .error (.overflow step)) := by
  unfold parse
  cases hread : readFields s with
  | none =>
    refine .inl ⟨?_, rfl⟩
    rintro ⟨f, hf⟩
    rw [readFields_eq_some_iff.2 hf] at hread
    cases hread
  | some p =>
    obtain ⟨days, hours, minutes, seconds, nanos⟩ := p
    refine .inr ⟨_, readFields_eq_some_iff.1 hread, ?_⟩
    dsimp only
    cases hsecs : totalSecs days hours minutes seconds with
    | ok secs =>
      obtain ⟨rfl, hle⟩ := totalSecs_eq_ok_iff.1 hsecs
      exact .inl ⟨hle, rfl⟩
    | error e =>
      obtain ⟨step, rfl⟩ := overflow_of_totalSecs hsecs
      refine .inr ⟨Nat.lt_of_not_le fun hle => ?_, step, rfl⟩
      rw [totalSecs_eq_ok_iff.2 ⟨rfl, hle⟩] at hsecs
      cases hsecs

theorem parse_eq_ok_of_written {f : Fields} (h : Written s f) (hsecs : f.secs ≤ Numeral.greatest64) :
    parse s = .ok f.duration := by
  rcases parse_cases s with ⟨hnot, -⟩ | ⟨f', h', ⟨-, hread⟩ | ⟨hlt, -⟩⟩
  · exact absurd ⟨f, h⟩ hnot
  · rw [hread, h.unique h']
  · rw [h.unique h'] at hsecs
    exact absurd hsecs (Nat.not_le.2 hlt)

/-- Reading follows the grammar. Every timespan whose seconds fit into 64 bits is read as exactly its seconds
with its fraction, and no other text is read as a duration; the texts that are no timespans are rejected. -/
theorem reading_follows_grammar (s : List Char) :
    (∀ f, Written s f → f.secs ≤ Numeral.greatest64 →
      ∃ d, parse s = .ok d ∧ d.nanos = f.secs * 1_000_000_000 + f.nanos) ∧
    (∀ d, parse s = .ok d → ∃ f, Written s f ∧ f.secs ≤ Numeral.greatest64) ∧
    (parse s = .error .malformed ↔ ¬ ∃ f, Written s f) := by
  refine ⟨fun f hf hsecs => ⟨_, parse_eq_ok_of_written hf hsecs, hf.nanos_duration hsecs⟩, ?_, ?_⟩
  · intro d hd
    rcases parse_cases s with ⟨-, hread⟩ | ⟨f, hf, ⟨hle, -⟩ | ⟨-, step, hread⟩⟩
    · rw [hread] at hd
      cases hd
    · exact ⟨f, hf, hle⟩
    · rw [hread] at hd
      cases hd
  · rcases parse_cases s with ⟨hnot, hread⟩ | ⟨f, hf, ⟨-, hread⟩ | ⟨-, step, hread⟩⟩
    · exact ⟨fun _ => hnot, fun _ => hread⟩
    · rw [hread]
      exact ⟨fun h => (nomatch h), fun h => absurd ⟨f, hf⟩ h⟩
    · rw [hread]
      exact ⟨fun h => (nomatch h), fun h => absurd ⟨f, hf⟩ h⟩

/-- Fields of one digit and of two, with plus signs and leading zeros, and two decimal places. -/
theorem reading_follows_grammar_signed :
    Written "+1.0:59:+07.25".toList ⟨1, 0, 59, 7, 250_000_000⟩ ∧
      ∃ d, parse "+1.0:59:+07.25".toList = .ok d ∧ d.nanos = 89_947_250_000_000 := by
  have hwritten : Written "+1.0:59:+07.25".toList ⟨1, 0, 59, 7, 250_000_000⟩ :=
    readFields_eq_some_iff.1 (by decide +kernel)
  exact ⟨hwritten, (reading_follows_grammar _).1 _ hwritten (by decide)⟩

end HealthWatch.Timespan
