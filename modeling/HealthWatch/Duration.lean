import HealthWatch.Text.Numeral
/-!
# Durations

A duration is a number of nanoseconds that stays below 2 to the 64 seconds. The constructors from
larger numbers stop at the longest duration, so that arithmetic on durations is total. The clock
of the service ticks in whole milliseconds: `ceilMillis` is the tick at which a timer set to a
duration fires.
-/

namespace HealthWatch

/-- The longest duration, in nanoseconds. -/
def Duration.maxNanos : Nat := 0x1_0000_0000_0000_0000 * 1_000_000_000 - 1

/-- A length of time. -/
structure Duration where
  nanos : Nat
  nanos_le : nanos ≤ Duration.maxNanos
  deriving DecidableEq

namespace Duration

def zero : Duration := ⟨0, Nat.zero_le _⟩

instance : Inhabited Duration := ⟨zero⟩

/-- A number of nanoseconds, or the longest duration when there are more. -/
def ofNanos (n : Nat) : Duration := ⟨min n maxNanos, Nat.min_le_right _ _⟩

def ofMillis (n : Nat) : Duration := ofNanos (n * 1_000_000)

def ofSecs (n : Nat) : Duration := ofNanos (n * 1_000_000_000)

/-- Whole seconds and the nanoseconds beyond them. -/
def ofParts (secs nanos : Nat) : Duration := ofNanos (secs * 1_000_000_000 + nanos)

def secs (d : Duration) : Nat := d.nanos / 1_000_000_000

/-- The nanoseconds beyond the whole seconds. -/
def subsecNanos (d : Duration) : Nat := d.nanos % 1_000_000_000

def millis (d : Duration) : Nat := d.nanos / 1_000_000

/-- The first whole millisecond that is no earlier than the duration. -/
def ceilMillis (d : Duration) : Nat :=
  if d.nanos % 1_000_000 = 0 then d.nanos / 1_000_000 else d.nanos / 1_000_000 + 1

/-- The sum, or the longest duration. -/
def add (d e : Duration) : Duration := ofNanos (d.nanos + e.nanos)

instance : LE Duration := ⟨fun d e => d.nanos ≤ e.nanos⟩
instance : LT Duration := ⟨fun d e => d.nanos < e.nanos⟩

instance (d e : Duration) : Decidable (d ≤ e) := inferInstanceAs (Decidable (d.nanos ≤ e.nanos))
instance (d e : Duration) : Decidable (d < e) := inferInstanceAs (Decidable (d.nanos < e.nanos))

def shorter (d e : Duration) : Duration := if d.nanos ≤ e.nanos then d else e

def WholeMillis (d : Duration) : Prop := d.nanos % 1_000_000 = 0

instance (d : Duration) : Decidable d.WholeMillis := inferInstanceAs (Decidable (_ = _))

/-- The duration without the nanoseconds beyond a multiple of `step`. -/
def roundedDown (step : Nat) (d : Duration) : Duration :=
  ⟨d.nanos / step * step, Nat.le_trans (Nat.div_mul_le_self _ _) d.nanos_le⟩

theorem ext {d e : Duration} (h : d.nanos = e.nanos) : d = e := by
  cases d; cases e; cases h; rfl

theorem secs_lt (d : Duration) : d.secs < 0x1_0000_0000_0000_0000 := by
  have := d.nanos_le
  unfold maxNanos at this
  unfold secs
  omega

theorem nanos_ofNanos {n : Nat} (h : n ≤ maxNanos) : (ofNanos n).nanos = n := Nat.min_eq_left h

theorem ofMillis_le_ofMillis {m n : Nat} (h : m ≤ n) : ofMillis m ≤ ofMillis n := by
  show min (m * 1_000_000) maxNanos ≤ min (n * 1_000_000) maxNanos
  omega

/-! ## Timers -/

/-- A timer has fired at an instant exactly when its duration has passed by then. -/
theorem ceilMillis_le_iff {d : Duration} {n : Nat} : d.ceilMillis ≤ n ↔ d.nanos ≤ n * 1_000_000 := by
  unfold ceilMillis
  split <;> omega

theorem lt_ceilMillis_iff {d : Duration} {n : Nat} : n < d.ceilMillis ↔ n * 1_000_000 < d.nanos := by
  rw [← Nat.not_le, ceilMillis_le_iff, Nat.not_le]

theorem ceilMillis_eq_zero_iff {d : Duration} : d.ceilMillis = 0 ↔ d.nanos = 0 := by
  rw [← Nat.le_zero, ceilMillis_le_iff, Nat.zero_mul, Nat.le_zero]

/-- A duration of which the timer fires earlier is shorter. -/
theorem shorter_eq_left {d e : Duration} (h : d.ceilMillis < e.ceilMillis) : d.shorter e = d := by
  have hlt := lt_ceilMillis_iff.1 h
  have hle := ceilMillis_le_iff.1 (Nat.le_refl d.ceilMillis)
  exact if_pos (by omega)

theorem ceilMillis_le_ceilMillis {d e : Duration} (h : d.nanos ≤ e.nanos) :
    d.ceilMillis ≤ e.ceilMillis :=
  ceilMillis_le_iff.2 (Nat.le_trans h (ceilMillis_le_iff.1 (Nat.le_refl _)))

theorem ceilMillis_shorter (d e : Duration) :
    (d.shorter e).ceilMillis = min d.ceilMillis e.ceilMillis := by
  unfold shorter
  split
  · next h => rw [Nat.min_eq_left (ceilMillis_le_ceilMillis h)]
  · next h => rw [Nat.min_eq_right (ceilMillis_le_ceilMillis (Nat.le_of_not_le h))]

/-- A timer of whole milliseconds fires early enough for another one exactly when it is shorter. -/
theorem WholeMillis.ceilMillis_lt_iff {d e : Duration} (h : d.WholeMillis) :
    d.ceilMillis < e.ceilMillis ↔ d < e := by
  have hd : d.ceilMillis * 1_000_000 = d.nanos := by
    unfold WholeMillis at h
    rw [ceilMillis, if_pos h, Nat.div_mul_cancel (Nat.dvd_of_mod_eq_zero h)]
  rw [lt_ceilMillis_iff, hd]
  exact Iff.rfl

/-! ## Text -/

/-- A number of units of `10 ^ places` parts each, with the parts as decimal places that do not end
in a zero. -/
def scaledText (places parts : Nat) : List Char :=
  let rest := parts % Nat.pow 10 places
  let shown := (Numeral.padded places rest).reverse.dropWhile (· = '0')
  Numeral.decimal (parts / Nat.pow 10 places) ++
    (if rest = 0 then [] else '.' :: shown.reverse)

/-- The duration in the largest unit of which it has at least one. -/
def text (d : Duration) : String :=
  if 1_000_000_000 ≤ d.nanos then String.ofList (scaledText 9 d.nanos) ++ "s"
  else if 1_000_000 ≤ d.nanos then String.ofList (scaledText 6 d.nanos) ++ "ms"
  else if 1_000 ≤ d.nanos then String.ofList (scaledText 3 d.nanos) ++ "µs"
  else Numeral.text d.nanos ++ "ns"

end Duration

end HealthWatch
