import HealthWatch.Duration
import HealthWatch.Text.Blank
import HealthWatch.Text.Split
import HealthWatch.Text.Utf8
/-!
# Durations in settings

A setting gives a duration as a numeral followed by a unit: `250ms`, `30s`, `5m` or `2h`. The
number is at least one and at most a limit that depends on the unit.

The unit is the ending `ms` or else the last byte of the text. To cut the text where no character
begins, and to multiply beyond 64 bits, are faults of their own, which no text leads to.
-/

namespace HealthWatch.Duration

/-- Why a text gives no duration. -/
inductive Fault where
  /-- The text is not a number of units within the limit of the unit. -/
  | malformed
  /-- The text is cut inside a character. -/
  | insideCharacter
  /-- The seconds need more than 64 bits. -/
  | overflow
  deriving DecidableEq, Repr

/-- A unit of time that a setting may use. -/
inductive TimeUnit where
  | millisecond
  | second
  | minute
  | hour
  deriving DecidableEq, Repr

namespace TimeUnit

def suffix : TimeUnit → List Char
  | millisecond => ['m', 's']
  | second => ['s']
  | minute => ['m']
  | hour => ['h']

/-- The greatest number of units: a day, or a week for hours. -/
def greatest : TimeUnit → Nat
  | millisecond => 24 * 60 * 60 * 1000
  | second => 24 * 60 * 60
  | minute => 24 * 60
  | hour => 7 * 24

def ofSuffix? (cs : List Char) : Option TimeUnit :=
  [millisecond, second, minute, hour].find? fun u => u.suffix = cs

end TimeUnit

/-- So many times a number of seconds, if the product fits into 64 bits. -/
def ofTimesSecs (n secs : Nat) : Except Fault Duration :=
  if n * secs ≤ Numeral.greatest64 then .ok (ofSecs (n * secs)) else .error .overflow

/-- The duration of a number of units, within the limit of the unit. -/
def ofUnits (n : Nat) (u : TimeUnit) : Except Fault Duration :=
  if 1 ≤ n ∧ n ≤ u.greatest then
    match u with
    | .millisecond => .ok (ofMillis n)
    | .second => .ok (ofSecs n)
    | .minute => ofTimesSecs n 60
    | .hour => ofTimesSecs n 3600
  else .error .malformed

/-- The text before a byte, which must not be inside a character. -/
def textBefore (n : Nat) (cs : List Char) : Except Fault (List Char) :=
  match Text.cutAtByte? n cs with
  | some (front, _) => .ok front
  | none => .error .insideCharacter

/-- A text cut before the ending `ms`, or else before its last byte. -/
def cutUnit (cs : List Char) : Except Fault (List Char × List Char) :=
  match Text.stripSuffix? TimeUnit.millisecond.suffix cs with
  | some numeral => .ok (numeral, TimeUnit.millisecond.suffix)
  | none =>
    match Text.byteLength cs with
    | 0 => .error .malformed
    | last + 1 =>
      match Text.cutAtByte? last cs with
      | some (_, suffix) => return (← textBefore last cs, suffix)
      | none => .error .malformed

/-- The duration that a text gives, blanks around it aside. -/
def parse (cs : List Char) : Except Fault Duration := do
  let (numeral, suffix) ← cutUnit (Text.trim cs)
  match Numeral.read64? numeral, TimeUnit.ofSuffix? suffix with
  | some n, some u => ofUnits n u
  | _, _ => .error .malformed

/-- The duration that a text means, if it means one. -/
def read? (cs : List Char) : Option Duration := (parse cs).toOption

end HealthWatch.Duration
