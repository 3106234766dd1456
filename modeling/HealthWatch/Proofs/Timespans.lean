import HealthWatch.Proofs.Timespans.Grammar
/-!
# Timespans as they are written and read

`parse_format` says that the timespan of a duration is read as the duration, but for the nanoseconds
beyond a tick. What is written follows the grammar, part by part (`written_format`), and its seconds fit.
-/

namespace HealthWatch.Timespan

/-! ## The parts of a timespan -/

/-- The text of the whole days, if there are any. -/
def dayText (days : Nat) : List Char := if days > 0 then Numeral.decimal days ++ ['.'] else []

/-- The text of hours, minutes and seconds. -/
def clockText (hours minutes seconds : Nat) : List Char :=
  Numeral.padded 2 hours ++ ':' :: (Numeral.padded 2 minutes ++ ':' :: Numeral.padded 2 seconds)

/-- The text of the ticks beyond a second, if there are any. -/
def tickText (ticks : Nat) : List Char := if ticks > 0 then '.' :: Numeral.padded 7 ticks else []

theorem format_eq (d : Duration) :
    format d = dayText (d.secs / daySecs) ++
      (clockText (d.secs % daySecs / 3600) (d.secs % 3600 / 60) (d.secs % 60) ++
        tickText (d.subsecNanos / tickNanos)) := by
  simp only [format, dayText, clockText, tickText, List.append_assoc, List.cons_append]

variable {days hours minutes seconds ticks : Nat}

theorem dayPart_dayText (h : days ≤ Numeral.greatest64) : DayPart (dayText days) days := by
  unfold dayText
  split
  · exact .present ⟨Numeral.denotes_decimal days, h⟩
  · obtain rfl : days = 0 := by omega
    exact .absent

theorem clockPart_clockText (hhours : hours ≤ Numeral.greatest64) (hminutes : minutes < 60)
    (hseconds : seconds < 60) :
    ClockPart (clockText hours minutes seconds) hours minutes seconds := by
  have hsixty : 60 ≤ Numeral.greatest64 := by decide
  exact .intro ⟨Numeral.denotes_padded 2 hours, hhours⟩
    ⟨Numeral.denotes_padded 2 minutes, by omega⟩ ⟨Numeral.denotes_padded 2 seconds, by omega⟩
    hminutes hseconds

theorem fractionPart_tickText (h : ticks < 10000000) :
    FractionPart (tickText ticks) (ticks * tickNanos) := by
  unfold tickText
  split
  · have hlen : (Numeral.padded 7 ticks).length = 7 := Numeral.length_padded (by decide) h
    have hpart := FractionPart.present (Numeral.padded_ne_nil 7 ticks) (Nat.le_of_eq hlen)
      fun _ => Numeral.isDigit_of_mem_padded
    rwa [hlen, Numeral.value_padded] at hpart
  · obtain rfl : ticks = 0 := by omega
    exact .absent

/-! ## Whole timespans -/

/-- The fields of the timespan of a duration. -/
def Fields.ofDuration (d : Duration) : Fields where
  days := d.secs / daySecs
  hours := d.secs % daySecs / 3600
  minutes := d.secs % 3600 / 60
  seconds := d.secs % 60
  nanos := d.subsecNanos / tickNanos * tickNanos

theorem written_format (d : Duration) : Written (format d) (.ofDuration d) := by
  have hsecs := d.secs_lt
  have hnanos : d.subsecNanos < 1_000_000_000 := Nat.mod_lt _ (by decide)
  have hgreatest : Numeral.greatest64 = 0xFFFF_FFFF_FFFF_FFFF := rfl
  rw [format_eq]
  unfold daySecs tickNanos
  -- Each field is within its bounds, since the seconds fit into 64 bits.
  refine .intro (dayPart_dayText ?_) (clockPart_clockText ?_ ?_ ?_) (fractionPart_tickText ?_) <;> omega

theorem Fields.secs_ofDuration (d : Duration) : (ofDuration d).secs = d.secs := by
  have hdays := Nat.div_add_mod' d.secs daySecs
  have hhours := Nat.div_add_mod' (d.secs % daySecs) 3600
  have hminutes := Nat.div_add_mod' (d.secs % 3600) 60
  rw [Nat.mod_mod_of_dvd d.secs (by decide)] at hhours hminutes
  show d.secs / daySecs * daySecs + d.secs % daySecs / 3600 * 3600 + d.secs % 3600 / 60 * 60 +
    d.secs % 60 = d.secs
  omega

/-- A duration is read back from its timespan, but for the nanoseconds beyond a tick. -/
theorem parse_format (d : Duration) : parse (format d) = .ok (d.roundedDown tickNanos) := by
  have hwritten := written_format d
  have hfits : (Fields.ofDuration d).secs ≤ Numeral.greatest64 := by
    rw [Fields.secs_ofDuration]
    exact Nat.le_of_lt_succ d.secs_lt
  rw [parse_eq_ok_of_written hwritten hfits]
  refine congrArg Except.ok (Duration.ext ?_)
  rw [hwritten.nanos_duration hfits, Fields.secs_ofDuration]
  unfold Fields.ofDuration Duration.roundedDown Duration.secs Duration.subsecNanos tickNanos
  dsimp only
  omega

/-! ## Ticks -/

theorem secs_inTicks (d : Duration) : (d.roundedDown tickNanos).secs = d.secs := by
  unfold Duration.roundedDown Duration.secs tickNanos
  dsimp only
  omega

theorem subsecNanos_inTicks (d : Duration) :
    (d.roundedDown tickNanos).subsecNanos = d.subsecNanos / tickNanos * tickNanos := by
  unfold Duration.roundedDown Duration.subsecNanos tickNanos
  dsimp only
  omega

/-- Only seconds and ticks are written. -/
theorem format_congr {d d' : Duration} (hsecs : d.secs = d'.secs)
    (hticks : d.subsecNanos / tickNanos = d'.subsecNanos / tickNanos) : format d = format d' := by
  rw [format_eq, format_eq, hsecs, hticks]

/-- The nanoseconds beyond a tick are not written. -/
theorem format_roundedDown (d : Duration) : format (d.roundedDown tickNanos) = format d := by
  refine format_congr (secs_inTicks d) ?_
  rw [subsecNanos_inTicks]
  exact Nat.mul_div_left _ (by decide)

/-- Each duration is read back from its timespan with its seconds and its ticks, and no step of the sum
overflows on the way. So the timespans of two durations are the same exactly when seconds and ticks are. -/
theorem reading_undoes_writing (d : Duration) :
    (∃ back, parse (format d) = .ok back ∧ back.secs = d.secs ∧
      back.subsecNanos = d.subsecNanos / 100 * 100) ∧
    ∀ d', format d = format d' ↔
      d.secs = d'.secs ∧ d.subsecNanos / 100 = d'.subsecNanos / 100 := by
  refine ⟨⟨_, parse_format d, secs_inTicks d, subsecNanos_inTicks d⟩, fun d' => ⟨fun h => ?_, ?_⟩⟩
  · have hback : d.roundedDown tickNanos = d'.roundedDown tickNanos := by
      have hread := (parse_format d).symm.trans ((congrArg parse h).trans (parse_format d'))
      exact Except.ok.inj hread
    have hsecs := congrArg Duration.secs hback
    have hnanos := congrArg Duration.subsecNanos hback
    rw [secs_inTicks, secs_inTicks] at hsecs
    rw [subsecNanos_inTicks, subsecNanos_inTicks] at hnanos
    exact ⟨hsecs, Nat.eq_of_mul_eq_mul_right (by decide) hnanos⟩
  · rintro ⟨hsecs, hticks⟩
    exact format_congr hsecs hticks

/-- The longest duration, whose sum takes up all of 64 bits. -/
example : format ⟨Duration.maxNanos, Nat.le_refl _⟩ =
    "213503982334601.07:00:15.9999999".toList := by decide +kernel

end HealthWatch.Timespan
