import HealthWatch.Duration
import HealthWatch.Text.Split
/-!
# Timespans

Reports write a duration as `[d.]hh:mm:ss[.fffffff]`: a day prefix when there is a whole day, and
seven decimal places, in ticks of 100 nanoseconds, when there is a tick beyond the whole seconds.

Reading is more liberal: each field is a numeral of 64 bits, minutes and seconds stay below sixty,
and the fraction has one to seven digits. The sum of the fields is computed in 64 bits, from the
left, and a step that does not fit is an error of its own.
-/

namespace HealthWatch.Timespan

def tickNanos : Nat := 100

def daySecs : Nat := 86400

/-- The timespan of a duration. -/
def format (d : Duration) : List Char :=
  let days := d.secs / daySecs
  let ticks := d.subsecNanos / tickNanos
  (if days > 0 then Numeral.decimal days ++ ['.'] else []) ++
    Numeral.padded 2 (d.secs % daySecs / 3600) ++ ':' ::
    (Numeral.padded 2 (d.secs % 3600 / 60) ++ ':' :: Numeral.padded 2 (d.secs % 60)) ++
    (if ticks > 0 then '.' :: Numeral.padded 7 ticks else [])

/-- An arithmetic step whose result needs more than 64 bits. -/
inductive Overflow where
  | multiply
  | add
  deriving DecidableEq, Repr

def Overflow.message : Overflow → String
  | .multiply => "attempt to multiply with overflow"
  | .add => "attempt to add with overflow"

/-- Why a text gives no duration. -/
inductive Fault where
  /-- The text is no timespan. -/
  | malformed
  /-- The text is a timespan of more seconds than 64 bits hold. -/
  | overflow (step : Overflow)
  deriving DecidableEq, Repr

/-- The product, if it fits into 64 bits. -/
def times (a b : Nat) : Except Fault Nat :=
  if a * b ≤ Numeral.greatest64 then .ok (a * b) else .error (.overflow .multiply)

/-- The sum, if it fits into 64 bits. -/
def plus (a b : Nat) : Except Fault Nat :=
  if a + b ≤ Numeral.greatest64 then .ok (a + b) else .error (.overflow .add)

/-- The seconds of days, hours, minutes and seconds, added from the left. -/
def totalSecs (days hours minutes seconds : Nat) : Except Fault Nat := do
  let ofDays ← times days daySecs
  let ofHours ← times hours 3600
  let sum ← plus ofDays ofHours
  let ofMinutes ← times minutes 60
  let sum ← plus sum ofMinutes
  plus sum seconds

/-- The text before the fraction, and the fraction. A dot after the last colon begins a fraction;
a dot before it belongs to the day prefix. -/
def cutFraction (s : List Char) : List Char × Option (List Char) :=
  match Text.cutLast '.' s with
  | some (head, tail) => if ':' ∈ tail then (s, none) else (head, some tail)
  | none => (s, none)

/-- The day prefix, zero when there is none, and the clock fields after it. -/
def cutDays (s : List Char) : Option (Nat × List Char) :=
  match Text.cutFirst '.' s with
  | some (days, clock) => (Numeral.read64? days).map (·, clock)
  | none => some (0, s)

/-- The hours, minutes and seconds of a clock text. -/
def readClock (s : List Char) : Option (Nat × Nat × Nat) :=
  match Text.fields ':' s with
  | [h, m, sec] => do
    let hours ← Numeral.read64? h
    let minutes ← Numeral.read64? m
    let seconds ← Numeral.read64? sec
    if minutes < 60 ∧ seconds < 60 then some (hours, minutes, seconds) else none
  | _ => none

/-- The nanoseconds of a fraction of one to seven digits. -/
def readFraction (f : List Char) : Option Nat :=
  if f ≠ [] ∧ f.length ≤ 7 ∧ f.all Char.isDigit then
    some (Numeral.value (f ++ List.replicate (7 - f.length) '0') * tickNanos)
  else none

/-- The fields of a timespan: days, hours, minutes, seconds and nanoseconds. -/
def readFields (s : List Char) : Option (Nat × Nat × Nat × Nat × Nat) := do
  let (rest, fraction) := cutFraction s
  let (days, clock) ← cutDays rest
  let (hours, minutes, seconds) ← readClock clock
  let nanos ← match fraction with
    | some f => readFraction f
    | none => some 0
  return (days, hours, minutes, seconds, nanos)

/-- The duration that a text means. -/
def parse (s : List Char) : Except Fault Duration :=
  match readFields s with
  | some (days, hours, minutes, seconds, nanos) => do
    let secs ← totalSecs days hours minutes seconds
    return Duration.ofParts secs nanos
  | none => .error .malformed

end HealthWatch.Timespan
