/-!
# Readings that succeed

Configurations, timespans and reports are read in steps, and the first step that fails decides. A reading
succeeds exactly when each of its steps does, and fails with the fault of one of them: `bind_eq_ok_iff` and
`bind_eq_error_iff` for one step after another, `mapM_map_eq_ok` and `foldlM_eq_error_iff` for a step that is
made for each item of a list. `FirstFault` says which fault that is when each step looks for faults of one
kind, and `bind_eq_error_iff_append` follows the steps.
-/

namespace HealthWatch

variable {ε α β γ : Type}

theorem bind_eq_ok_iff {x : Except ε α} {f : α → Except ε β} {b : β} :
    (x >>= f) = .ok b ↔ ∃ a, x = .ok a ∧ f a = .ok b := by
  cases x with
  | error e =>
    refine ⟨fun h => ?_, ?_⟩
    · cases h
    · rintro ⟨a, ha, -⟩
      cases ha
  | ok a =>
    refine ⟨fun h => ⟨a, rfl, h⟩, ?_⟩
    rintro ⟨a', ha, h⟩
    cases ha
    exact h

theorem bind_eq_error_iff {x : Except ε α} {f : α → Except ε β} {e : ε} :
    (x >>= f) = .error e ↔ x = .error e ∨ ∃ a, x = .ok a ∧ f a = .error e := by
  cases x with
  | error e' =>
    refine ⟨fun h => .inl (congrArg _ (Except.error.inj h)), ?_⟩
    rintro (h | ⟨a, ha, -⟩)
    · exact congrArg _ (Except.error.inj h)
    · cases ha
  | ok a =>
    refine ⟨fun h => .inr ⟨a, rfl, h⟩, ?_⟩
    rintro (h | ⟨a', ha, h⟩)
    · cases h
    · cases ha
      exact h

/-- Reading each of the things that were written for the items of a list. -/
theorem mapM_map_eq_ok {write : γ → α} {read : α → Except ε β} {f : γ → β} {l : List γ}
    (h : ∀ c ∈ l, read (write c) = .ok (f c)) : (l.map write).mapM read = .ok (l.map f) := by
  induction l with
  | nil => rfl
  | cons c l ih =>
    have hl := ih fun d hd => h d (List.mem_cons_of_mem c hd)
    rw [List.map_cons, List.mapM_cons, bind_eq_ok_iff]
    refine ⟨f c, h c List.mem_cons_self, ?_⟩
    rw [bind_eq_ok_iff]
    exact ⟨l.map f, hl, rfl⟩

/-- A fold fails at an item exactly when it gets through the items before it and the step for it fails. -/
theorem foldlM_eq_error_iff {step : β → α → Except ε β} {l : List α} {b : β} {e : ε} :
    l.foldlM step b = .error e ↔ ∃ before a after b', l = before ++ a :: after ∧
      before.foldlM step b = .ok b' ∧ step b' a = .error e := by
  induction l generalizing b with
  | nil =>
    refine ⟨fun h => ?_, ?_⟩
    · cases h
    · rintro ⟨before, a, after, b', h, -, -⟩
      cases before <;> cases h
  | cons a l ih =>
    rw [List.foldlM_cons, bind_eq_error_iff]
    constructor
    · rintro (h | ⟨b₁, hstep, h⟩)
      · exact ⟨[], a, l, b, rfl, rfl, h⟩
      · obtain ⟨before, a', after, b', rfl, hbefore, h⟩ := ih.1 h
        refine ⟨a :: before, a', after, b', rfl, ?_, h⟩
        rw [List.foldlM_cons, bind_eq_ok_iff]
        exact ⟨b₁, hstep, hbefore⟩
    · rintro ⟨before, a', after, b', heq, hbefore, h⟩
      cases before with
      | nil =>
        cases heq
        cases hbefore
        exact .inl h
      | cons c before =>
        cases heq
        rw [List.foldlM_cons, bind_eq_ok_iff] at hbefore
        obtain ⟨b₁, hstep, hbefore⟩ := hbefore
        exact .inr ⟨b₁, hstep, ih.2 ⟨before, a', after, b', rfl, hbefore, h⟩⟩

/-- What does not fail succeeds. -/
theorem exists_eq_ok_iff {x : Except ε α} : (∃ a, x = .ok a) ↔ ∀ e, x ≠ .error e := by
  cases x with
  | error e => exact ⟨fun ⟨_, ha⟩ => (nomatch ha), fun h => absurd rfl (h e)⟩
  | ok a => exact ⟨fun _ _ he => (nomatch he), fun _ => ⟨a, rfl⟩⟩

/-! ## The first fault -/

section FirstFault
variable {κ : Type} {kind : κ} {order : List κ} {faulty : κ → ε → Prop} {e : ε}

/-- A fault is the first that is found when faults are looked for in an order of their kinds: nothing is
wrong of the kinds that come before. -/
def FirstFault (order : List κ) (faulty : κ → ε → Prop) (e : ε) : Prop :=
  ∃ before kind after, order = before ++ kind :: after ∧ faulty kind e ∧
    ∀ earlier ∈ before, ∀ e', ¬ faulty earlier e'

theorem not_firstFault_nil : ¬ FirstFault [] faulty e := by
  rintro ⟨before, kind, after, h, -, -⟩
  cases before <;> cases h

theorem firstFault_cons : FirstFault (kind :: order) faulty e ↔
    faulty kind e ∨ (∀ e', ¬ faulty kind e') ∧ FirstFault order faulty e := by
  constructor
  · rintro ⟨before, kind', after, h, hfault, hnone⟩
    cases before with
    | nil =>
      cases h
      exact .inl hfault
    | cons k before =>
      cases h
      rw [List.forall_mem_cons] at hnone
      exact .inr ⟨hnone.1, before, kind', after, rfl, hfault, hnone.2⟩
  · rintro (hfault | ⟨hnot, before, kind', after, rfl, hfault, hnone⟩)
    · exact ⟨[], kind, order, rfl, hfault, fun _ hk => (nomatch hk)⟩
    · exact ⟨kind :: before, kind', after, rfl, hfault, List.forall_mem_cons.2 ⟨hnot, hnone⟩⟩

theorem firstFault_singleton : FirstFault [kind] faulty e ↔ faulty kind e := by
  rw [firstFault_cons]
  exact ⟨fun h => h.resolve_right fun h => not_firstFault_nil h.2, .inl⟩

theorem firstFault_append {order' : List κ} : FirstFault (order ++ order') faulty e ↔
    FirstFault order faulty e ∨
      (∀ kind ∈ order, ∀ e', ¬ faulty kind e') ∧ FirstFault order' faulty e := by
  induction order with
  | nil => simp [not_firstFault_nil]
  | cons kind order ih =>
    rw [List.cons_append, firstFault_cons, firstFault_cons, ih, List.forall_mem_cons, and_or_left,
      or_assoc, and_assoc]

/-- There is a first fault unless there is none at all. -/
theorem forall_not_firstFault_iff :
    (∀ e, ¬ FirstFault order faulty e) ↔ ∀ kind ∈ order, ∀ e, ¬ faulty kind e := by
  induction order with
  | nil => exact ⟨fun _ _ hk => (nomatch hk), fun _ _ => not_firstFault_nil⟩
  | cons kind order ih =>
    simp only [firstFault_cons, List.forall_mem_cons, not_or, not_and]
    constructor
    · intro h
      have hnot : ∀ e, ¬ faulty kind e := fun e => (h e).1
      exact ⟨hnot, ih.1 fun e => (h e).2 hnot⟩
    · rintro ⟨hnot, hrest⟩ e
      exact ⟨hnot e, fun _ => ih.2 hrest e⟩

/-- A reading that fails with the first fault succeeds when there is none. -/
theorem exists_eq_ok_iff_of_firstFault {x : Except ε α}
    (h : ∀ e, x = .error e ↔ FirstFault order faulty e) :
    (∃ a, x = .ok a) ↔ ∀ kind ∈ order, ∀ e, ¬ faulty kind e := by
  rw [exists_eq_ok_iff, ← forall_not_firstFault_iff]
  exact forall_congr' fun e => not_congr (h e)

/-- Steps that look for some kinds of faults, with steps after them that look for others. -/
theorem bind_eq_error_iff_append {order' : List κ} {x : Except ε α} {f : α → Except ε β}
    (hx : ∀ e, x = .error e ↔ FirstFault order faulty e)
    (hf : ∀ a, x = .ok a → (f a = .error e ↔ FirstFault order' faulty e)) :
    (x >>= f) = .error e ↔ FirstFault (order ++ order') faulty e := by
  rw [bind_eq_error_iff, firstFault_append, hx, ← exists_eq_ok_iff_of_firstFault hx]
  refine or_congr_right ⟨?_, ?_⟩
  · rintro ⟨a, ha, h⟩
    exact ⟨⟨a, ha⟩, (hf a ha).1 h⟩
  · rintro ⟨⟨a, ha⟩, h⟩
    exact ⟨a, ha, (hf a ha).2 h⟩

/-- A step that looks for one kind of fault, with steps after it that look for others. -/
theorem bind_eq_error_iff_cons {x : Except ε α} {f : α → Except ε β}
    (hx : ∀ e, x = .error e ↔ faulty kind e)
    (hf : ∀ a, x = .ok a → (f a = .error e ↔ FirstFault order faulty e)) :
    (x >>= f) = .error e ↔ FirstFault (kind :: order) faulty e :=
  @bind_eq_error_iff_append _ _ _ _ [kind] _ _ order _ _
    (fun e => (hx e).trans firstFault_singleton.symm) hf

end FirstFault

end HealthWatch
