import HealthWatch.Proofs.Dashboards
/-!
# Timespans that are too long

The sum of a timespan overflows exactly when its seconds need more than 64 bits, and it does so wherever a
report is read as well. `safe_readOutline` says that nothing else in a report makes its reading overflow: of
each reader, that it is safe on values without such literals.
-/

namespace HealthWatch

namespace Timespan

/-- A text is a timespan of more seconds than 64 bits hold. -/
def TooLong (s : List Char) : Prop := ∃ f, Written s f ∧ Numeral.greatest64 < f.secs

theorem overflow_iff_tooLong {s : List Char} :
    (∃ step, parse s = .error (.overflow step)) ↔ TooLong s := by
  rcases parse_cases s with ⟨hnot, hread⟩ | ⟨f, hf, ⟨hle, hread⟩ | ⟨hlt, hread⟩⟩
  · rw [hread]
    refine ⟨?_, fun ⟨f, hf, _⟩ => absurd ⟨f, hf⟩ hnot⟩
    rintro ⟨step, h⟩
    cases h
  · rw [hread]
    refine ⟨?_, fun ⟨f', hf', hlt⟩ => ?_⟩
    · rintro ⟨step, h⟩
      cases h
    · rw [hf.unique hf'] at hle
      exact absurd hle (Nat.not_le.2 hlt)
  · exact ⟨fun _ => ⟨f, hf, hlt⟩, fun _ => hread⟩

end Timespan

/-! ## The literals of an outline -/

namespace Json.Outline

/-- A literal stands as a value somewhere within an outline. -/
inductive Holds (raw : List Char) : Outline → Prop
  | literal : Holds raw (string raw)
  | item {o : Outline} {items : List Outline} {closed : Bool} (ho : o ∈ items) (h : Holds raw o) :
    Holds raw (array items closed)
  | member {m : List Char × Outline} {members : List (List Char × Outline)} {closed : Bool}
    (hm : m ∈ members) (h : Holds raw m.2) : Holds raw (object members closed)

/-- The literals of an outline are among the tokens. -/
def Within (ts : List Token) (o : Outline) : Prop := ∀ raw, o.Holds raw → .string raw ∈ ts

theorem Within.mono {ts ts' : List Token} {o : Outline} (h : Within ts o) (hsub : ts ⊆ ts') :
    Within ts' o := fun raw hraw => hsub (h raw hraw)

mutual

/-- What is read of a value, broken off or not, comes from the tokens. -/
theorem within_readValue : (fuel : Nat) → (ts : List Token) →
    Within ts (readValue fuel ts).1 ∧ (readValue fuel ts).2 ⊆ ts
  | 0, ts => ⟨fun _ h => (nomatch h), List.nil_subset ts⟩
  | fuel + 1, ts => by
    unfold readValue
    split
    · exact ⟨fun _ h => (nomatch h), List.subset_cons_self _ _⟩
    · exact ⟨fun _ h => (nomatch h), List.subset_cons_self _ _⟩
    · refine ⟨?_, List.subset_cons_self _ _⟩
      rintro _ ⟨⟩
      exact List.mem_cons_self
    · refine ⟨?_, fun t ht => List.mem_cons_of_mem _ (List.mem_cons_of_mem _ ht)⟩
      rintro _ (_ | ⟨ho, -⟩ | _)
      cases ho
    · next rest _ =>
      obtain ⟨hitems, hrest⟩ := within_readItems fuel rest
      refine ⟨?_, fun t ht => List.mem_cons_of_mem _ (hrest ht)⟩
      rintro raw (_ | ⟨ho, h⟩ | _)
      exact List.mem_cons_of_mem _ (hitems _ ho raw h)
    · refine ⟨?_, fun t ht => List.mem_cons_of_mem _ (List.mem_cons_of_mem _ ht)⟩
      rintro _ (_ | _ | ⟨hm, -⟩)
      cases hm
    · next rest _ =>
      obtain ⟨hmembers, hrest⟩ := within_readMembers fuel rest
      refine ⟨?_, fun t ht => List.mem_cons_of_mem _ (hrest ht)⟩
      rintro raw (_ | _ | ⟨hm, h⟩)
      exact List.mem_cons_of_mem _ (hmembers _ hm raw h)
    · exact ⟨fun _ h => (nomatch h), List.nil_subset _⟩

theorem within_readItems : (fuel : Nat) → (ts : List Token) →
    (∀ o ∈ (readItems fuel ts).1, Within ts o) ∧ (readItems fuel ts).2.2 ⊆ ts
  | 0, ts => ⟨fun _ h => (nomatch h), List.nil_subset ts⟩
  | fuel + 1, ts => by
    obtain ⟨hitem, hrest⟩ := within_readValue fuel ts
    rw [readItems]
    generalize readValue fuel ts = p at hitem hrest
    obtain ⟨item, rest⟩ := p
    dsimp only at hitem hrest ⊢
    split
    · next r =>
      refine ⟨?_, fun t ht => hrest (List.mem_cons_of_mem _ ht)⟩
      rintro o ho
      rwa [List.mem_singleton.1 ho]
    · next r =>
      obtain ⟨hitems, hlast⟩ := within_readItems fuel r
      have hsub : r ⊆ ts := fun t ht => hrest (List.mem_cons_of_mem _ ht)
      refine ⟨?_, fun t ht => hsub (hlast ht)⟩
      rintro o ho
      rcases List.mem_cons.1 ho with rfl | ho
      · exact hitem
      · exact (hitems o ho).mono hsub
    · refine ⟨?_, List.nil_subset _⟩
      rintro o ho
      rwa [List.mem_singleton.1 ho]

theorem within_readMembers : (fuel : Nat) → (ts : List Token) →
    (∀ m ∈ (readMembers fuel ts).1, Within ts m.2) ∧ (readMembers fuel ts).2.2 ⊆ ts
  | 0, ts => ⟨fun _ h => (nomatch h), List.nil_subset ts⟩
  | fuel + 1, ts => by
    unfold readMembers
    split
    · next name r =>
      obtain ⟨hvalue, hrest⟩ := within_readValue fuel r
      generalize readValue fuel r = p at hvalue hrest
      obtain ⟨value, rest⟩ := p
      dsimp only at hvalue hrest ⊢
      have hsub : r ⊆ .string name :: .colon :: r :=
        fun t ht => List.mem_cons_of_mem _ (List.mem_cons_of_mem _ ht)
      split
      · refine ⟨?_, fun t ht => hsub (hrest (List.mem_cons_of_mem _ ht))⟩
        rintro m hm
        rw [List.mem_singleton.1 hm]
        exact hvalue.mono hsub
      · next r' =>
        obtain ⟨hmembers, hlast⟩ := within_readMembers fuel r'
        have hsub' : r' ⊆ .string name :: .colon :: r :=
          fun t ht => hsub (hrest (List.mem_cons_of_mem _ ht))
        refine ⟨?_, fun t ht => hsub' (hlast ht)⟩
        rintro m hm
        rcases List.mem_cons.1 hm with rfl | hm
        · exact hvalue.mono hsub
        · exact (hmembers m hm).mono hsub'
      · refine ⟨?_, List.nil_subset _⟩
        rintro m hm
        rw [List.mem_singleton.1 hm]
        exact hvalue.mono hsub
    · exact ⟨fun _ h => (nomatch h), List.nil_subset _⟩

end

theorem within_ofText (cs : List Char) : Within (Json.tokens cs) (ofText cs).1 := by
  show Within _ (readValue (2 * (Json.tokens cs).length + 1) (Json.tokens cs)).1
  exact (within_readValue _ _).1

end Json.Outline

/-! ## Readings that do not overflow -/

namespace Dashboard

open Json (Outline)

/-- A reading does not overflow: it gives a value or rejects the text. -/
def Safe {α : Type} (x : Except Fault α) : Prop := ∀ step, x ≠ .error (.overflow step)

/-- No literal of an outline is a timespan that is too long. -/
def Harmless (o : Outline) : Prop :=
  ∀ raw s, o.Holds raw → Json.stringValue? raw = some s → ¬ Timespan.TooLong s.toList

variable {α β : Type} {x : Except Fault α} {f : α → Except Fault β} {o : Outline}

theorem safe_ok (a : α) : Safe (.ok a) := fun _ h => nomatch h

theorem safe_malformed : Safe (.error .malformed : Except Fault α) := fun _ h => nomatch h

theorem Safe.bind (hx : Safe x) (hf : ∀ a, Safe (f a)) : Safe (x >>= f) := by
  intro step h
  rcases bind_eq_error_iff.1 h with h | ⟨a, -, h⟩
  · exact hx step h
  · exact hf a step h

theorem Safe.map (hx : Safe x) (f : α → β) : Safe (f <$> x) := by
  rw [map_eq_pure_bind]
  exact hx.bind fun a => safe_ok (f a)

theorem safe_mapM {l : List α} (h : ∀ a ∈ l, Safe (f a)) : Safe (l.mapM f) := by
  induction l with
  | nil => exact safe_ok []
  | cons a l ih =>
    rw [List.mapM_cons]
    refine (h a List.mem_cons_self).bind fun b => ?_
    exact (ih fun c hc => h c (List.mem_cons_of_mem a hc)).bind fun bs => safe_ok (b :: bs)

theorem safe_foldlM {f : β → α → Except Fault β} {l : List α} (h : ∀ a ∈ l, ∀ b, Safe (f b a))
    (b : β) : Safe (l.foldlM f b) := by
  induction l generalizing b with
  | nil => exact safe_ok b
  | cons a l ih =>
    rw [List.foldlM_cons]
    exact (h a List.mem_cons_self b).bind (ih fun c hc => h c (List.mem_cons_of_mem a hc))

theorem safe_orMalformed (a : Option α) : Safe (orMalformed a) := by
  cases a with
  | none => exact safe_malformed
  | some a => exact safe_ok a

theorem safe_require (condition : Bool) : Safe (require condition) := by
  cases condition with
  | false => exact safe_malformed
  | true => exact safe_ok ()

/-! ## Single values -/

theorem safe_readString (o : Outline) : Safe (readString o) := by
  cases o with
  | string raw => exact safe_orMalformed _
  | _ => exact safe_malformed

theorem safe_readOptional (o : Outline) : Safe (readOptional o) := by
  unfold readOptional
  split
  · exact safe_ok none
  · exact (safe_readString o).map some

theorem safe_readStatus (o : Outline) : Safe (readStatus o) := by
  unfold readStatus
  split
  · exact (safe_readString _).bind fun _ => safe_orMalformed _
  · exact (safe_readString _).bind fun _ => safe_orMalformed _

theorem safe_readNames (o : Outline) : Safe (readNames o) := by
  unfold readNames
  split
  · refine (safe_mapM fun o _ => safe_readString o).bind fun names => ?_
    exact (safe_require _).bind fun _ => safe_ok _
  · exact safe_malformed

theorem safe_readDatum (o : Outline) : Safe (readDatum o) := safe_orMalformed _

theorem safe_readDuration (h : Harmless o) : Safe (readDuration o) := by
  cases o with
  | string raw =>
    intro step hstep
    rcases bind_eq_error_iff.1 hstep with hstep | ⟨s, hs, hstep⟩
    · exact safe_readString _ step hstep
    · have hraw : Json.stringValue? raw = some s := by
        cases hvalue : Json.stringValue? raw with
        | none =>
          rw [readString, hvalue] at hs
          cases hs
        | some t =>
          rw [readString, hvalue] at hs
          exact congrArg some (Except.ok.inj hs)
      refine h raw s .literal hraw (Timespan.overflow_iff_tooLong.1 ⟨step, ?_⟩)
      split at hstep
      · cases hstep
      · cases hstep
      · next hparse =>
        cases hstep
        exact hparse
  | _ => exact safe_malformed

theorem Harmless.item {items : List Outline} {closed : Bool} (h : Harmless (.array items closed))
    (ho : o ∈ items) : Harmless o := fun raw s hraw => h raw s (.item ho hraw)

theorem Harmless.member {m : List Char × Outline} {members : List (List Char × Outline)}
    {closed : Bool} (h : Harmless (.object members closed)) (hm : m ∈ members) : Harmless m.2 :=
  fun raw s hraw => h raw s (.member hm hraw)

theorem safe_readMap {readValue : Outline → Except Fault α} (hread : ∀ o, Harmless o → Safe (readValue o))
    (h : Harmless o) : Safe (readMap readValue o) := by
  unfold readMap
  split
  · refine (safe_mapM fun m hm => ?_).bind fun pairs => ?_
    · exact (safe_readString _).bind fun name =>
        (hread m.2 (h.member hm)).bind fun value => safe_ok (name, value)
    · exact (safe_require _).bind fun _ => safe_ok _
  · exact safe_malformed

/-! ## Records -/

theorem safe_entryMember (fields : EntryFields) {m : List Char × Outline} (h : Harmless m.2) :
    Safe (fields.member m) := by
  refine (safe_readString _).bind fun name => ?_
  split
  · exact (safe_require _).bind fun _ =>
      (safe_readMap (fun o _ => safe_readDatum o) h).bind fun _ => safe_ok _
  · exact (safe_require _).bind fun _ => (safe_readOptional _).bind fun _ => safe_ok _
  · exact (safe_require _).bind fun _ => (safe_readDuration h).bind fun _ => safe_ok _
  · exact (safe_require _).bind fun _ => (safe_readOptional _).bind fun _ => safe_ok _
  · exact (safe_require _).bind fun _ => (safe_readStatus _).bind fun _ => safe_ok _
  · exact (safe_require _).bind fun _ => (safe_readNames _).bind fun _ => safe_ok _
  · exact (safe_require _).bind fun _ => safe_ok _

theorem safe_entryItem (fields : EntryFields) (place : Nat) (h : Harmless o) :
    Safe (fields.item place o) := by
  unfold EntryFields.item
  split
  · exact (safe_readMap (fun o _ => safe_readDatum o) h).bind fun _ => safe_ok _
  · exact (safe_readOptional _).bind fun _ => safe_ok _
  · exact (safe_readDuration h).bind fun _ => safe_ok _
  · exact (safe_readOptional _).bind fun _ => safe_ok _
  · exact (safe_readStatus _).bind fun _ => safe_ok _
  · exact (safe_readNames _).bind fun _ => safe_ok _
  · exact safe_malformed

theorem safe_entry (fields : EntryFields) : Safe fields.entry :=
  (safe_orMalformed _).bind fun _ => (safe_orMalformed _).bind fun _ => safe_ok _

theorem safe_readEntry (h : Harmless o) : Safe (readEntry o) := by
  unfold readEntry
  split
  · refine (safe_foldlM (fun m hm fields => safe_entryMember fields (h.member hm)) _).bind fun fields => ?_
    exact (safe_require _).bind fun _ => safe_entry fields
  · refine (safe_foldlM (fun p hp fields => ?_) _).bind fun fields => ?_
    · exact safe_entryItem fields p.2 (h.item (List.fst_mem_of_mem_zipIdx hp))
    · exact (safe_require _).bind fun _ => safe_entry fields
  · exact safe_malformed

theorem safe_member (fields : Fields) {m : List Char × Outline} (h : Harmless m.2) :
    Safe (fields.member m) := by
  refine (safe_readString _).bind fun name => ?_
  split
  · exact (safe_require _).bind fun _ => (safe_readStatus _).bind fun _ => safe_ok _
  · exact (safe_require _).bind fun _ => (safe_readDuration h).bind fun _ => safe_ok _
  · exact (safe_require _).bind fun _ =>
      (safe_readMap (fun _ => safe_readEntry) h).bind fun _ => safe_ok _
  · exact (safe_require _).bind fun _ => safe_ok _

theorem safe_item (fields : Fields) (place : Nat) (h : Harmless o) : Safe (fields.item place o) := by
  unfold Fields.item
  split
  · exact (safe_readStatus _).bind fun _ => safe_ok _
  · exact (safe_readDuration h).bind fun _ => safe_ok _
  · exact (safe_readMap (fun _ => safe_readEntry) h).bind fun _ => safe_ok _
  · exact safe_malformed

theorem safe_dashboard (fields : Fields) : Safe fields.dashboard :=
  (safe_orMalformed _).bind fun _ => (safe_orMalformed _).bind fun _ =>
    (safe_orMalformed _).bind fun _ => safe_ok _

theorem safe_readOutline (h : Harmless o) : Safe (readOutline o) := by
  unfold readOutline
  split
  · refine (safe_foldlM (fun m hm fields => safe_member fields (h.member hm)) _).bind fun fields => ?_
    exact (safe_require _).bind fun _ => safe_dashboard fields
  · refine (safe_foldlM (fun p hp fields => ?_) _).bind fun fields => ?_
    · exact safe_item fields p.2 (h.item (List.fst_mem_of_mem_zipIdx hp))
    · exact (safe_require _).bind fun _ => safe_dashboard fields
  · exact safe_malformed

/-! ## Texts -/

/-- A text has a literal that means `s`, wherever it stands. -/
def Quotes (cs : List Char) (s : String) : Prop :=
  ∃ raw, .string raw ∈ Json.tokens cs ∧ Json.stringValue? raw = some s

theorem safe_read {cs : List Char} (h : ∀ s, Quotes cs s → ¬ Timespan.TooLong s.toList) :
    Safe (read cs) := by
  have hharmless : Harmless (Outline.ofText cs).1 :=
    fun raw s hraw hs => h s ⟨raw, Json.Outline.within_ofText cs raw hraw, hs⟩
  exact (safe_readOutline hharmless).bind fun d => (safe_require _).bind fun _ => safe_ok d

/-- The text of a healthy report without entries that gives a text as its duration. -/
def textWithTotal (s : List Char) : List Char :=
  (Json.object [
    ("status", .string Status.healthy.name),
    ("totalDuration", .string (String.ofList s)),
    ("entries", .object [])]).print

theorem readDuration_of_overflow {s : List Char} {step : Timespan.Overflow}
    (h : Timespan.parse s = .error (.overflow step)) :
    readDuration (Json.string (String.ofList s)).outline = .error (.overflow step) := by
  rw [Json.outline, readDuration, readString_escape, bind_eq_error_iff]
  refine .inr ⟨_, rfl, ?_⟩
  rw [String.toList_ofList, h]

theorem read_textWithTotal {s : List Char} {step : Timespan.Overflow}
    (h : Timespan.parse s = .error (.overflow step)) :
    read (textWithTotal s) = .error (.overflow step) := by
  have houtline : Outline.ofText (textWithTotal s) = (.object [
      (Json.escape "status".toList, (Json.string Status.healthy.name).outline),
      (Json.escape "totalDuration".toList, (Json.string (String.ofList s)).outline),
      (Json.escape "entries".toList, (Json.object []).outline)] true, true) := Json.ofText_print rfl
  rw [read, houtline]
  refine bind_eq_error_iff.2 (.inl ?_)
  rw [readOutline]
  refine bind_eq_error_iff.2 (.inl ?_)
  -- The status is read first, and the entries are not reached.
  simp only [List.foldlM_cons, Fields.member, readString_escape, readStatus_outline,
    readDuration_of_overflow h, require, Option.isNone_none, bind, Except.bind, pure, Except.pure,
    if_true]

/-- Reading overflows on the timespans of more seconds than 64 bits hold, and on no other text. A report
that gives such a timespan as its duration overflows as well, and a report without one among its
literals is read or rejected. -/
theorem overflows_only_when_too_long (s cs : List Char) :
    ((∃ step, Timespan.parse s = .error (.overflow step)) ↔ Timespan.TooLong s) ∧
      (Timespan.TooLong s → ∃ step, read (textWithTotal s) = .error (.overflow step)) ∧
      ((∀ t, Quotes cs t → ¬ Timespan.TooLong t.toList) → Safe (read cs)) := by
  refine ⟨Timespan.overflow_iff_tooLong, fun hlong => ?_, safe_read⟩
  obtain ⟨step, hparse⟩ := Timespan.overflow_iff_tooLong.2 hlong
  exact ⟨step, read_textWithTotal hparse⟩

/-- The days of the greatest numeral overflow; the literals of a report of one minute do not. -/
theorem overflows_only_when_too_long_days :
    (∃ step, read (textWithTotal "18446744073709551615.00:00:00".toList) = .error (.overflow step)) ∧
      Safe (read "[\"Healthy\",\"00:01:00\",\x7b\x7d]".toList) := by
  obtain ⟨hparse, hreport, hsafe⟩ := overflows_only_when_too_long
    "18446744073709551615.00:00:00".toList "[\"Healthy\",\"00:01:00\",\x7b\x7d]".toList
  refine ⟨hreport (hparse.1 ⟨.multiply, by decide +kernel⟩), hsafe ?_⟩
  rintro t ⟨raw, hraw, ht⟩ hlong
  obtain ⟨step, hstep⟩ := Timespan.overflow_iff_tooLong.2 hlong
  have htokens : Json.tokens "[\"Healthy\",\"00:01:00\",\x7b\x7d]".toList =
      [.openArray, .string "Healthy".toList, .comma, .string "00:01:00".toList, .comma, .openObject,
        .closeObject, .closeArray] := by decide +kernel
  rw [htokens] at hraw
  simp only [List.mem_cons, Json.Token.string.injEq, reduceCtorEq, List.not_mem_nil, or_false,
    false_or] at hraw
  have hvalues : ∀ raw ∈ ["Healthy".toList, "00:01:00".toList], ∀ s ∈ Json.stringValue? raw,
      Timespan.parse s.toList ≠ .error (.overflow .multiply) ∧
        Timespan.parse s.toList ≠ .error (.overflow .add) := by decide +kernel
  obtain ⟨hmultiply, hadd⟩ := hvalues raw (by simpa using hraw) t ht
  cases step with
  | multiply => exact hmultiply hstep
  | add => exact hadd hstep

/-- A timespan whose days alone take more than 64 bits in seconds is not rejected, and neither is a report
that gives it as its duration. -/
theorem too_long_is_not_rejected :
    Timespan.parse "18446744073709551615.00:00:00".toList = .error (.overflow .multiply) ∧
      read (textWithTotal "18446744073709551615.00:00:00".toList) = .error (.overflow .multiply) :=
  ⟨by decide +kernel, read_textWithTotal (by decide +kernel)⟩

end Dashboard

end HealthWatch
