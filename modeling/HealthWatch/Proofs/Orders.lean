import HealthWatch.Proofs.Independence
/-!
# The order of checks does not show

Neither the order in which checks were registered nor that in which their tasks are joined shows in what an
evaluation comes to. The instant of the last end and the counts of calls do not depend on the order of the
courses (`latest_perm`, `countCalls_perm`), nor do the entries (`gather_perm`). `order_does_not_show` adds that
every run of the tasks, in whatever order they take their turns, ends with the same verdict.
-/

namespace HealthWatch

/-! ## Registering in another order -/

namespace Registry

/-- Names that differ and are not blank can be registered. -/
theorem registerAll_eq_ok {g : Registry} {rs : List Registration}
    (hnames : ((g.registrations ++ rs).map (·.name)).Nodup)
    (hblank : ∀ r ∈ rs, isBlankName r.name = false) :
    ∃ g', g.registerAll rs = .ok g' ∧ g'.registrations = g.registrations ++ rs := by
  induction rs generalizing g with
  | nil => exact ⟨g, rfl, (List.append_nil _).symm⟩
  | cons r rs ih =>
    have hnotBlank : ¬ isBlankName r.name = true := by
      rw [hblank r List.mem_cons_self]
      exact Bool.false_ne_true
    have hnew : r.name ∉ g.names := by
      intro hmem
      rw [List.map_append, List.nodup_append] at hnames
      exact hnames.2.2 _ hmem _ (List.mem_map_of_mem List.mem_cons_self) rfl
    obtain ⟨g', hg', hall⟩ : ∃ g', g.register r = .ok g' ∧
        g'.registrations = g.registrations ++ [r] := by
      rcases g.register_cases r with ⟨hb, -⟩ | ⟨-, hd, -⟩ | ⟨-, -, hok⟩
      · exact absurd (Text.trim_eq_nil_iff.1 hb) hnotBlank
      · exact absurd hd hnew
      · exact hok
    have hcons : g'.registrations ++ rs = g.registrations ++ r :: rs := by
      rw [hall, List.append_assoc, List.singleton_append]
    obtain ⟨g'', hg'', hall'⟩ := @ih g' (hcons ▸ hnames)
      fun q hq => hblank q (List.mem_cons_of_mem _ hq)
    refine ⟨g'', ?_, hall'.trans hcons⟩
    rw [registerAll, hg']
    exact hg''

/-- The checks of a registry can be registered in any other order. -/
theorem registerAll_perm {g : Registry} {rs : List Registration} (h : rs.Perm g.registrations) :
    ∃ g', empty.registerAll rs = .ok g' ∧ g'.registrations = rs :=
  registerAll_eq_ok (g := empty) ((h.map (·.name)).nodup_iff.2 g.distinct)
    fun r hr => g.notBlank r (h.subset hr)

end Registry

/-! ## Courses in another order -/

theorem latest_perm {l l' : List (Option Nat)} (h : l.Perm l') : latest l = latest l' :=
  Option.ext fun n => by
    show latest l = some n ↔ latest l' = some n
    simp only [latest_eq_some_iff, h.mem_iff]

namespace Evaluator

variable {e : Evaluator} {counts : CallCounts} {now : Int} {s : Selector} {o : EvaluationLimits}
  {cs cs' : List CheckCourse}

theorem lastEnd_perm (h : cs.Perm cs') : lastEnd cs = lastEnd cs' := latest_perm (h.map _)

theorem conclude_perm (h : cs.Perm cs') (hnodup : (cs.map (·.check.name)).Nodup) :
    conclude now o cs = conclude now o cs' := by
  have hentries : ∀ total, gather total cs cs = gather total cs' cs' :=
    fun total => gather_perm (.refl _) (.refl _) h hnodup
  unfold conclude
  simp only [lastEnd_perm h, hentries]

/-- Calls of different checks are counted in any order. -/
theorem countCalls_perm (h : cs.Perm cs') (hnodup : (cs.map (·.check.name)).Nodup) :
    countCalls counts cs = countCalls counts cs' := by
  refine h.foldl_eq' (fun c hc c' hc' m => ?_) counts
  by_cases hsame : c = c'
  · rw [hsame]
  have hne : c.check.name ≠ c'.check.name := fun hname =>
    hsame (List.inj_on_of_nodup_map hnodup hc hc' hname)
  refine NameMap.ext fun n => ?_
  split <;> split <;> simp only [NameMap.get?_insert]
  grind

end Evaluator

/-! ## Evaluations in another order -/

/-- Two evaluations come to the same at the same instant, with the same calls in some order. -/
structure Evaluation.SameAs (v w : Evaluation) : Prop where
  verdict : v.verdict = w.verdict
  endsAt : v.endsAt = w.endsAt
  calls : v.calls.Perm w.calls

/-- A run of an evaluation that has the evaluator to itself comes to what it should, when it should. -/
structure World.Run.ComesTo {e : Evaluator} {b : Booking} {counts : CallCounts}
    (run : World.Run e (fun _ : Unit => b) counts) (v : Evaluation) : Prop where
  ends : ∀ n, v.endsAt = some n → ∃ k, ∀ m ≥ k,
    (run.world m).stage () = .finished v.verdict (b.startsAt + n)
  only : ∀ m verdict endedAt, (run.world m).stage () = .finished verdict endedAt →
    verdict = v.verdict ∧ v.endsAt = some (endedAt - b.startsAt)

theorem World.Run.comesTo {e : Evaluator} {b : Booking} {counts : CallCounts}
    (run : World.Run e (fun _ : Unit => b) counts) {v : Evaluation}
    (hv : (b.result e counts).SameAs v) : run.ComesTo v where
  ends n hn := by
    rw [← hv.verdict]
    exact run.ends (i := ()) run.sound_solo (hv.endsAt.trans hn)
  only m verdict endedAt hstage := by
    rw [← hv.verdict, ← hv.endsAt]
    exact run.only_ends (i := ()) (run.sound_solo m) hstage

namespace Evaluator

variable {e : Evaluator} {counts : CallCounts} {now : Int} {s : Selector} {o : EvaluationLimits}

/-- The evaluation of the same checks in another order is the same. -/
theorem evaluate_perm {g : Registry} (h : g.registrations.Perm e.registry.registrations) :
    (({ e with registry := g } : Evaluator).evaluate counts now s o).1.SameAs
        (e.evaluate counts now s o).1 ∧
      (({ e with registry := g } : Evaluator).evaluate counts now s o).2 =
        (e.evaluate counts now s o).2 := by
  have hcourses : (({ e with registry := g } : Evaluator).courses counts s o.deadline).Perm
      (e.courses counts s o.deadline) := (h.filter _).map _
  have hnodup := @nodup_names_courses { e with registry := g } counts s o.deadline
  unfold evaluate
  split
  · exact ⟨⟨rfl, rfl, .refl _⟩, rfl⟩
  · dsimp only
    rw [conclude_perm hcourses hnodup, countCalls_perm hcourses hnodup]
    exact ⟨⟨rfl, rfl, hcourses.filterMap _⟩, rfl⟩

/-- The checks of an evaluator can be registered in any order, and every evaluation is then the same. Its
entries are the same for every order in which the tasks are joined, and every run of the tasks, in whatever
order they take their turns, ends at the same instant with the same verdict. -/
theorem order_does_not_show (e : Evaluator) (counts : CallCounts) (now : Int) (s : Selector)
    (o : EvaluationLimits) (rs : List Registration) (h : rs.Perm e.registry.registrations) :
    ∃ g, Registry.empty.registerAll rs = .ok g ∧ g.registrations = rs ∧
      (({ e with registry := g } : Evaluator).evaluate counts now s o).1.SameAs
        (e.evaluate counts now s o).1 ∧
      (({ e with registry := g } : Evaluator).evaluate counts now s o).2 =
        (e.evaluate counts now s o).2 ∧
      (∀ report, (e.evaluate counts now s o).1.verdict = .completed report →
        ∀ joined, joined.Perm (({ e with registry := g } : Evaluator).courses counts s o.deadline) →
          report.entries = gather report.total
            (({ e with registry := g } : Evaluator).courses counts s o.deadline) joined) ∧
      ∀ startsAt,
        Nonempty (World.Run { e with registry := g } (fun _ : Unit => ⟨s, o, startsAt, now⟩) counts) ∧
        ∀ run : World.Run { e with registry := g } (fun _ : Unit => ⟨s, o, startsAt, now⟩) counts,
          run.ComesTo (e.evaluate counts now s o).1 := by
  obtain ⟨g, hg, hall⟩ := Registry.registerAll_perm h
  have hperm : g.registrations.Perm e.registry.registrations := hall ▸ h
  obtain ⟨hsame, hcounts⟩ := @evaluate_perm e counts now s o g hperm
  refine ⟨g, hg, hall, hsame, hcounts, fun report hreport joined hjoined => ?_,
    fun startsAt => ⟨World.Run.nonempty _ _ _, fun run => run.comesTo hsame⟩⟩
  obtain ⟨f, -, -, rfl⟩ := completed_iff.1 (hsame.verdict.trans hreport)
  exact gather_perm (.refl _) hjoined (.refl _) nodup_names_courses

/-- The three checks in reverse: those that found something or died are entered as before, whoever is joined
first. -/
theorem order_does_not_show_mixed :
    Registry.mixed.registrations.reverse.Perm Registry.mixed.registrations ∧
    ∃ g, Registry.empty.registerAll Registry.mixed.registrations.reverse = .ok g ∧
      (evaluate { registry := g } .empty 0 .all {}).1.verdict =
        (evaluate { registry := .mixed } .empty 0 .all {}).1.verdict ∧
      Nonempty (World.Run { registry := g } (fun _ : Unit => ⟨.all, {}, 0, 0⟩) .empty) ∧
      ∀ run : World.Run { registry := g } (fun _ : Unit => ⟨.all, {}, 0, 0⟩) .empty,
        ∃ k report, ∀ m ≥ k, (run.world m).stage () = .finished (.completed report) 3 := by
  have hperm := List.reverse_perm Registry.mixed.registrations
  obtain ⟨g, hg, -, hsame, -, -, hruns⟩ :=
    order_does_not_show { registry := .mixed } .empty 0 .all {} _ hperm
  refine ⟨hperm, g, hg, hsame.verdict, (hruns 0).1, fun run => ?_⟩
  obtain ⟨k, hk⟩ := ((hruns 0).2 run).ends 3 rfl
  exact ⟨k, _, hk⟩

end Evaluator

end HealthWatch
