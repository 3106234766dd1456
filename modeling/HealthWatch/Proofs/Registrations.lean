import HealthWatch.Registry
/-!
# What a registry holds after registrations

`Registry.judged` sums up one registration: it is accepted behind the others, or refused, and then the
registry stays as it is. `Registry.registrations_submitAll` follows for any number of them: of those with a
name that is not blank, the first of each name is kept.
-/

namespace HealthWatch

/-- A selector asks for a check of a name with some tags. -/
inductive Selector.Matches (name : String) (tags : NameSet) : Selector → Prop
  | all : Matches name tags .all
  | named {names wanted : NameSet} (h : name ∈ names) : Matches name tags (.matching names wanted)
  | tagged {names wanted : NameSet} {tag : String} (hwanted : tag ∈ wanted) (h : tag ∈ tags) :
    Matches name tags (.matching names wanted)
  | passing {test : String → NameSet → Bool} (h : test name tags = true) :
    Matches name tags (.passing test)

theorem Selector.accepts_iff {s : Selector} {name : String} {tags : NameSet} :
    s.accepts name tags = true ↔ s.Matches name tags := by
  cases s with
  | all => exact ⟨fun _ => .all, fun _ => rfl⟩
  | matching names wanted =>
    rw [accepts, Bool.or_eq_true, decide_eq_true_iff, NameSet.intersects_iff]
    constructor
    · rintro (h | ⟨tag, hwanted, h⟩)
      · exact .named h
      · exact .tagged hwanted h
    · rintro (_ | h | ⟨hwanted, h⟩)
      · exact .inl h
      · exact .inr ⟨_, hwanted, h⟩
  | passing test =>
    refine ⟨.passing, ?_⟩
    rintro ⟨⟩
    next h => exact h

namespace Registry

variable {g : Registry}

/-! ## One registration -/

/-- What comes of a registration: the registry after it, and why it was refused, if it was. -/
inductive Judged (g : Registry) (r : Registration) : Registry × Option RegistrationFault → Prop
  | accepted {g' : Registry} (hnamed : Text.trim r.name.toList ≠ [])
    (hnew : ∀ q ∈ g.registrations, q.name ≠ r.name)
    (hg' : g'.registrations = g.registrations ++ [r]) : Judged g r (g', none)
  | emptyName (h : Text.trim r.name.toList = []) : Judged g r (g, some .emptyName)
  | duplicateName (hnamed : Text.trim r.name.toList ≠ []) (h : ∃ q ∈ g.registrations, q.name = r.name) :
    Judged g r (g, some (.duplicateName r.name))

theorem mem_names_iff {name : String} : name ∈ g.names ↔ ∃ r ∈ g.registrations, r.name = name :=
  List.mem_map

theorem notMem_names_iff {name : String} :
    name ∉ g.names ↔ ∀ r ∈ g.registrations, r.name ≠ name := by
  simp [mem_names_iff]

theorem judged (g : Registry) (r : Registration) : g.Judged r (g.submit r) := by
  rcases g.register_cases r with ⟨h, hr⟩ | ⟨hnamed, h, hr⟩ | ⟨hnamed, h, g', hr, hg'⟩
  · rw [submit, hr]
    exact .emptyName h
  · rw [submit, hr]
    exact .duplicateName hnamed (mem_names_iff.1 h)
  · rw [submit, hr]
    exact .accepted hnamed (notMem_names_iff.1 h) hg'

/-! ## Any number of registrations -/

/-- Of the registrations whose names are neither blank nor taken, the first of each name is kept. -/
theorem registrations_submitAll (g : Registry) (rs : List Registration) :
    (g.submitAll rs).registrations = g.registrations ++
      (rs.filter fun r => Text.trim r.name.toList ≠ [] ∧ r.name ∉ g.names).eraseDupsBy
        fun r q => r.name = q.name := by
  induction rs generalizing g with
  | nil => exact (List.append_nil _).symm
  | cons r rs ih =>
    have hall : g.submitAll (r :: rs) = (g.submit r).1.submitAll rs := rfl
    have hjudged := g.judged r
    rw [hall]
    generalize g.submit r = p at hjudged
    cases hjudged with
    | @accepted g' hnamed hnew hg' =>
      have hnotMem := notMem_names_iff.2 hnew
      -- What is refused because of `r` is what has the name of `r`.
      have hfilter : (rs.filter fun q => Text.trim q.name.toList ≠ [] ∧ q.name ∉ g'.names) =
          (rs.filter fun q => Text.trim q.name.toList ≠ [] ∧ q.name ∉ g.names).filter
            fun q => decide (q.name = r.name) = false := by
        rw [List.filter_filter]
        refine List.filter_congr fun q _ => ?_
        have hnames : q.name ∈ g'.names ↔ q.name ∈ g.names ∨ q.name = r.name := by
          simp [names, hg']
        grind
      rw [ih, hg', hfilter, List.append_assoc, List.filter_cons_of_pos (by simp [hnamed, hnotMem]),
        List.eraseDupsBy_cons, List.singleton_append]
    | emptyName h =>
      rw [ih, List.filter_cons_of_neg (by simp [h])]
    | duplicateName hnamed h =>
      have hmem := mem_names_iff.2 h
      rw [ih, List.filter_cons_of_neg (by simp [hmem])]

/-! ## Finding and selecting -/

/-- What is found is the only registration of the name. -/
theorem get?_eq_some_iff {name : String} {r : Registration} :
    g.get? name = some r ↔ g.registrations.filter (fun q => q.name = name) = [r] := by
  rw [get?, ← List.head?_filter, List.head?_eq_some_iff]
  refine ⟨?_, fun h => ⟨[], h⟩⟩
  rintro ⟨others, h⟩
  have hnodup : ((r :: others).map (·.name)).Nodup :=
    h ▸ g.distinct.sublist (List.filter_sublist.map _)
  have hname : ∀ q ∈ r :: others, q.name = name := by
    intro q hq
    rw [← h, List.mem_filter] at hq
    exact of_decide_eq_true hq.2
  cases others with
  | nil => exact h
  | cons q others =>
    have hq : q.name = r.name := by
      rw [hname q (by simp), hname r (by simp)]
    simp [hq] at hnodup

theorem mem_select_iff {s : Selector} {r : Registration} :
    r ∈ g.select s ↔ r ∈ g.registrations ∧ s.Matches r.name r.tags := by
  rw [select, List.mem_filter, Selector.accepts_iff]

/-- After any registrations the registry holds, in their order, those that were accepted: the first of each
name that is not blank. One more is accepted behind them or refused, and then nothing changes. A name finds
the only registration that has it, if there is one, and a selector selects the registrations that it matches,
in order. -/
theorem submissions_keep_first (rs : List Registration) :
    let g := empty.submitAll rs
    g.registrations = (rs.filter fun r => Text.trim r.name.toList ≠ []).eraseDupsBy
        (fun r q => r.name = q.name) ∧
      (∀ r, g.Judged r (g.submit r)) ∧
      (∀ name, (g.get? name).isSome = true ↔ ∃ r ∈ g.registrations, r.name = name) ∧
      (∀ name r, g.get? name = some r ↔
        g.registrations.filter (fun q => q.name = name) = [r]) ∧
      ∀ s, (g.select s).Sublist g.registrations ∧
        ∀ r, r ∈ g.select s ↔ r ∈ g.registrations ∧ s.Matches r.name r.tags := by
  intro g
  have hkept : g.registrations = (rs.filter fun r => Text.trim r.name.toList ≠ []).eraseDupsBy
      (fun r q => r.name = q.name) := by
    have hfree : ∀ name, name ∉ empty.names := fun _ => List.not_mem_nil
    have hnone : empty.registrations = [] := rfl
    show (empty.submitAll rs).registrations = _
    simp only [registrations_submitAll, hnone, List.nil_append, hfree, not_false_eq_true, and_true]
  exact ⟨hkept, g.judged, fun name => get?_isSome_iff.trans mem_names_iff,
    fun name r => get?_eq_some_iff, fun s => ⟨List.filter_sublist, fun r => mem_select_iff⟩⟩

end Registry

end HealthWatch
