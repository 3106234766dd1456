import HealthWatch.Duration.Notation
/-!
# Which texts give durations

`Duration.Says` is the grammar of the durations in settings: a numeral and a unit between blanks, within the
limit of the unit. Reading a text cuts it at bytes and multiplies in 64 bits; `Duration.cutUnit_cases` and
`Duration.ofUnits_cases` sum up what comes of these steps. `Duration.parse_finds_amounts` follows: reading
finds what a text says, and the only fault is that it says nothing.
-/

namespace HealthWatch.Duration

/-- How a unit of time is written, how many of it there may be, and how many nanoseconds it has. -/
inductive UnitOf : List Char → Nat → Nat → Prop
  | millisecond : UnitOf ['m', 's'] 86_400_000 1_000_000
  | second : UnitOf ['s'] 86_400 1_000_000_000
  | minute : UnitOf ['m'] 1_440 60_000_000_000
  | hour : UnitOf ['h'] 168 3_600_000_000_000

/-- A text says a number of nanoseconds: a numeral and a unit, with blanks around them. -/
inductive Says (cs : List Char) : Nat → Prop
  | intro {front numeral suffix back : List Char} {n most each : Nat}
    (hcs : cs = front ++ (numeral ++ suffix) ++ back)
    (hfront : Text.allBlank front = true) (hback : Text.allBlank back = true)
    (hnumeral : Numeral.Denotes numeral n) (hunit : UnitOf suffix most each)
    (hpos : 1 ≤ n) (hmost : n ≤ most) : Says cs (n * each)

variable {cs numeral suffix : List Char} {n most each : Nat} {d : Duration}

/-! ## Units -/

theorem ofSuffix?_eq_some_iff {u : TimeUnit} : TimeUnit.ofSuffix? cs = some u ↔ u.suffix = cs := by
  constructor
  · intro h
    rw [TimeUnit.ofSuffix?] at h
    have hfound := List.find?_some h
    exact of_decide_eq_true hfound
  · rintro rfl
    cases u <;> rfl

theorem TimeUnit.exists_unitOf (u : TimeUnit) : ∃ each, UnitOf u.suffix u.greatest each := by
  cases u with
  | millisecond => exact ⟨_, .millisecond⟩
  | second => exact ⟨_, .second⟩
  | minute => exact ⟨_, .minute⟩
  | hour => exact ⟨_, .hour⟩

theorem UnitOf.exists_timeUnit (h : UnitOf suffix most each) :
    ∃ u : TimeUnit, u.suffix = suffix ∧ u.greatest = most := by
  cases h with
  | millisecond => exact ⟨.millisecond, rfl, rfl⟩
  | second => exact ⟨.second, rfl, rfl⟩
  | minute => exact ⟨.minute, rfl, rfl⟩
  | hour => exact ⟨.hour, rfl, rfl⟩

theorem UnitOf.unique {most' each' : Nat} (h : UnitOf suffix most each)
    (h' : UnitOf suffix most' each') : most = most' ∧ each = each' := by
  cases h <;> cases h' <;> exact ⟨rfl, rfl⟩

theorem nanos_ofSecs {k : Nat} (h : k ≤ 604_800) : (ofSecs k).nanos = k * 1_000_000_000 := by
  refine nanos_ofNanos ?_
  unfold maxNanos
  omega

theorem nanos_ofMillis {k : Nat} (h : k ≤ 86_400_000) : (ofMillis k).nanos = k * 1_000_000 := by
  refine nanos_ofNanos ?_
  unfold maxNanos
  omega

/-- The product fits into 64 bits by far. -/
theorem ofTimesSecs_eq_ok {secs : Nat} (h : n * secs ≤ 604_800) :
    ofTimesSecs n secs = .ok (ofSecs (n * secs)) := by
  refine if_pos ?_
  unfold Numeral.greatest64
  omega

/-- A number of units within the limit has its nanoseconds, and any other is refused. -/
theorem ofUnits_cases (n : Nat) (u : TimeUnit) : ∃ most each, UnitOf u.suffix most each ∧
    ((1 ≤ n ∧ n ≤ most ∧ ∃ d, ofUnits n u = .ok d ∧ d.nanos = n * each) ∨
      ¬ (1 ≤ n ∧ n ≤ most) ∧ ofUnits n u = .error .malformed) := by
  by_cases h : 1 ≤ n ∧ n ≤ u.greatest
  · cases u with
    | millisecond =>
      exact ⟨_, _, .millisecond, .inl ⟨h.1, h.2, _, if_pos h, nanos_ofMillis h.2⟩⟩
    | second =>
      have hmost : n ≤ 86_400 := h.2
      exact ⟨_, _, .second, .inl ⟨h.1, h.2, _, if_pos h, nanos_ofSecs (by omega)⟩⟩
    | minute =>
      have hmost : n ≤ 1_440 := h.2
      have hsecs : n * 60 ≤ 604_800 := by omega
      refine ⟨_, _, .minute, .inl ⟨h.1, h.2, _, (if_pos h).trans (ofTimesSecs_eq_ok hsecs), ?_⟩⟩
      rw [nanos_ofSecs hsecs, Nat.mul_assoc]
    | hour =>
      have hmost : n ≤ 168 := h.2
      have hsecs : n * 3600 ≤ 604_800 := by omega
      refine ⟨_, _, .hour, .inl ⟨h.1, h.2, _, (if_pos h).trans (ofTimesSecs_eq_ok hsecs), ?_⟩⟩
      rw [nanos_ofSecs hsecs, Nat.mul_assoc]
  · obtain ⟨each, hu⟩ := u.exists_unitOf
    exact ⟨_, each, hu, .inr ⟨h, if_neg h⟩⟩

/-! ## Cutting off the unit -/

/-- A text is cut between two characters, or not at all. -/
theorem cutUnit_cases (cs : List Char) : cutUnit cs = .error .malformed ∨
    ∃ numeral suffix, cutUnit cs = .ok (numeral, suffix) ∧ cs = numeral ++ suffix := by
  unfold cutUnit
  cases hmillis : Text.stripSuffix? TimeUnit.millisecond.suffix cs with
  | some numeral => exact .inr ⟨_, _, rfl, Text.stripSuffix?_eq_some_iff.1 hmillis⟩
  | none =>
    cases Text.byteLength cs with
    | zero => exact .inl rfl
    | succ last =>
      dsimp only
      cases hcut : Text.cutAtByte? last cs with
      | none => exact .inl rfl
      | some parts =>
        obtain ⟨front, rest⟩ := parts
        refine .inr ⟨front, rest, ?_, (Text.cutAtByte?_eq_some_iff.1 hcut).1⟩
        simp only [textBefore, hcut]
        rfl

theorem cutUnit_concat {c : Char} (hc : c.utf8Size = 1) (hm : 'm' ∉ numeral) :
    cutUnit (numeral ++ [c]) = .ok (numeral, [c]) := by
  have hmillis : Text.stripSuffix? TimeUnit.millisecond.suffix (numeral ++ [c]) = none := by
    refine Option.eq_none_iff_forall_ne_some.2 fun front hfront => hm ?_
    have happend : numeral ++ [c] = front ++ ['m'] ++ ['s'] := by
      rw [Text.stripSuffix?_eq_some_iff.1 hfront, List.append_assoc]
      rfl
    rw [(List.append_inj' happend rfl).1]
    exact List.mem_append_right _ (List.mem_singleton_self _)
  have hlength : Text.byteLength (numeral ++ [c]) = Text.byteLength numeral + 1 := by
    rw [Text.byteLength_append, Text.byteLength, hc, Text.byteLength]
  have hcut : Text.cutAtByte? (Text.byteLength numeral) (numeral ++ [c]) = some (numeral, [c]) :=
    Text.cutAtByte?_eq_some_iff.2 ⟨rfl, rfl⟩
  unfold cutUnit
  simp only [hmillis, hlength, hcut, textBefore]
  rfl

theorem cutUnit_append {u : TimeUnit} (hm : 'm' ∉ numeral) :
    cutUnit (numeral ++ u.suffix) = .ok (numeral, u.suffix) := by
  cases u with
  | millisecond =>
    have hmillis := Text.stripSuffix?_eq_some_iff.2 (rfl : numeral ++ TimeUnit.millisecond.suffix = _)
    rw [cutUnit, hmillis]
  | second => exact cutUnit_concat rfl hm
  | minute => exact cutUnit_concat rfl hm
  | hour => exact cutUnit_concat rfl hm

/-! ## Reading -/

theorem isBlank_of_isDigit {c : Char} (h : c.isDigit = true) : Text.isBlank c = false := by
  obtain ⟨hlow, hhigh⟩ := Bool.and_eq_true_iff.1 h
  have hlow : 48 ≤ c.toNat := of_decide_eq_true hlow
  have hhigh : c.toNat ≤ 57 := of_decide_eq_true hhigh
  simp [Text.isBlank, Text.blankRanges]
  omega

theorem exists_cons_of_denotes (h : Numeral.Denotes numeral n) :
    ∃ c rest, numeral = c :: rest ∧ Text.isBlank c = false := by
  cases h with
  | unsigned hne hds =>
    obtain ⟨c, rest, rfl⟩ := List.exists_cons_of_ne_nil hne
    exact ⟨c, rest, rfl, isBlank_of_isDigit (hds c List.mem_cons_self)⟩
  | @signed ds => exact ⟨'+', ds, rfl, rfl⟩

/-- Blanks are neither in front of a numeral nor behind a unit. -/
theorem trimmed_append (hnumeral : Numeral.Denotes numeral n) (hunit : UnitOf suffix most each) :
    Text.Trimmed (numeral ++ suffix) where
  head := by
    intro d hd
    obtain ⟨c, rest, rfl, hc⟩ := exists_cons_of_denotes hnumeral
    cases hd
    exact hc
  last := by
    intro d hd
    rw [List.reverse_append] at hd
    cases hunit <;> cases hd <;> rfl

/-- Reading a text finds nothing, or a duration that the text says. -/
theorem parse_cases (cs : List Char) :
    parse cs = .error .malformed ∨ ∃ d, parse cs = .ok d ∧ Says cs d.nanos := by
  unfold parse
  rcases cutUnit_cases (Text.trim cs) with hcut | ⟨numeral, suffix, hcut, htrim⟩
  · rw [hcut]
    exact .inl rfl
  · rw [hcut]
    obtain ⟨-, front, back, hcs, hfront, hback⟩ := Text.trim_eq_iff.1 htrim
    simp only [bind, Except.bind]
    cases hread : Numeral.read64? numeral with
    | none => exact .inl rfl
    | some n =>
      cases hunit : TimeUnit.ofSuffix? suffix with
      | none => exact .inl rfl
      | some u =>
        obtain rfl := ofSuffix?_eq_some_iff.1 hunit
        obtain ⟨hnumeral, -⟩ := Numeral.read64?_eq_some_iff.1 hread
        obtain ⟨most, each, hu, ⟨hpos, hmost, d, hd, hnanos⟩ | ⟨-, herror⟩⟩ := ofUnits_cases n u
        · refine .inr ⟨d, hd, ?_⟩
          rw [hnanos]
          exact .intro hcs hfront hback hnumeral hu hpos hmost
        · exact .inl herror

/-- What a text says is found. -/
theorem parse_of_says {nanos : Nat} (h : Says cs nanos) : ∃ d, parse cs = .ok d ∧ d.nanos = nanos := by
  obtain @⟨front, numeral, _, back, n, _, _, hcs, hfront, hback, hnumeral, hunit, hpos, hmost⟩ := h
  obtain ⟨u, rfl, rfl⟩ := hunit.exists_timeUnit
  have htrim : Text.trim cs = numeral ++ u.suffix :=
    Text.trim_eq_iff.2 ⟨trimmed_append hnumeral hunit, front, back, hcs, hfront, hback⟩
  have hcut : cutUnit (Text.trim cs) = .ok (numeral, u.suffix) := by
    rw [htrim]
    exact cutUnit_append (hnumeral.notMem rfl (by decide))
  have hgreatest : u.greatest ≤ Numeral.greatest64 := by cases u <;> decide
  have hread : Numeral.read64? numeral = some n :=
    Numeral.read64?_eq_some_iff.2 ⟨hnumeral, Nat.le_trans hmost hgreatest⟩
  have hparse : parse cs = ofUnits n u := by
    rw [parse, hcut]
    simp only [bind, Except.bind, hread, ofSuffix?_eq_some_iff.2 rfl]
  obtain ⟨most, each', hu, ⟨-, -, d, hd, hnanos⟩ | ⟨hnot, -⟩⟩ := ofUnits_cases n u
  · obtain ⟨-, rfl⟩ := hunit.unique hu
    exact ⟨d, hparse.trans hd, hnanos⟩
  · obtain ⟨rfl, -⟩ := hunit.unique hu
    exact absurd ⟨hpos, hmost⟩ hnot

theorem says_of_read? (h : read? cs = some d) : Says cs d.nanos := by
  rcases parse_cases cs with herror | ⟨d', hd, hsays⟩
  · rw [read?, herror] at h
    cases h
  · rw [read?, hd] at h
    cases h
    exact hsays

/-- A duration that can be read has at least a millisecond and at most the milliseconds of a week. -/
theorem exists_millis_of_read? (h : read? cs = some d) :
    ∃ n, 1 ≤ n ∧ n ≤ 7 * 24 * 60 * 60 * 1000 ∧ d.nanos = n * 1_000_000 := by
  have hsays := says_of_read? h
  generalize d.nanos = nanos at hsays
  cases hsays with
  | @intro _ _ _ _ n _ _ _ _ _ _ hunit hpos hmost =>
    cases hunit with
    | millisecond => exact ⟨n, by omega, by omega, rfl⟩
    | second => exact ⟨n * 1000, by omega, by omega, by omega⟩
    | minute => exact ⟨n * (60 * 1000), by omega, by omega, by omega⟩
    | hour => exact ⟨n * (60 * 60 * 1000), by omega, by omega, by omega⟩

/-- A duration that can be read is a positive number of whole milliseconds. -/
theorem read?_eq_some (h : read? cs = some d) : 0 < d.nanos ∧ d.WholeMillis := by
  obtain ⟨n, hn, -, hd⟩ := exists_millis_of_read? h
  unfold WholeMillis
  rw [hd]
  exact ⟨by omega, Nat.mul_mod_left _ _⟩

/-- Reading a text finds what it says, a number of nanoseconds, and fails only where it says nothing: whatever
the text, it is never cut inside a character, and no product needs more than 64 bits. -/
theorem parse_finds_amounts (cs : List Char) :
    (∀ nanos, Says cs nanos ↔ ∃ d, read? cs = some d ∧ d.nanos = nanos) ∧
      ∀ fault, parse cs = .error fault ↔ fault = .malformed ∧ ¬ ∃ nanos, Says cs nanos := by
  rcases parse_cases cs with herror | ⟨d, hd, hsays⟩
  · have hnot : ¬ ∃ nanos, Says cs nanos := by
      rintro ⟨nanos, h⟩
      obtain ⟨d, hd, -⟩ := parse_of_says h
      rw [herror] at hd
      cases hd
    have hread : read? cs = none := by rw [read?, herror]; rfl
    rw [hread, herror]
    refine ⟨fun nanos => ⟨fun h => absurd ⟨nanos, h⟩ hnot, ?_⟩, fun fault => ?_⟩
    · rintro ⟨_, ⟨⟩, -⟩
    · exact ⟨fun h => ⟨(Except.error.inj h).symm, hnot⟩, fun h => congrArg _ h.1.symm⟩
  · have hread : read? cs = some d := by rw [read?, hd]; rfl
    rw [hread, hd]
    refine ⟨fun nanos => ⟨fun h => ?_, ?_⟩, fun fault => ⟨fun h => (nomatch h), ?_⟩⟩
    · obtain ⟨d', hd', hnanos⟩ := parse_of_says h
      exact ⟨d', congrArg _ (Except.ok.inj (hd.symm.trans hd')), hnanos⟩
    · rintro ⟨_, ⟨⟩, rfl⟩
      exact hsays
    · rintro ⟨-, hnot⟩
      exact absurd ⟨_, hsays⟩ hnot

/-- The last byte is inside a character. -/
example : parse "5é".toList = .error .malformed := rfl

end HealthWatch.Duration
