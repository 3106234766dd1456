import HealthWatch.Probe
import HealthWatch.Selector
import HealthWatch.Text.Blank
/-!
# The registry of checks

A registration binds a name to a probe and to the policy of the check. The registry keeps
registrations in the order in which they came; their names differ and none is blank. A registration
that breaks this is refused and the registry stays as it is.
-/

namespace HealthWatch

/-- A named check. -/
structure Registration where
  name : String
  source : ProbeSource
  /-- The status of the check when it fails. -/
  failureStatus : Status := .unhealthy
  tags : NameSet := .empty
  timeout : Option Duration := none

/-- Why a registration is refused. -/
inductive RegistrationFault where
  | duplicateName (name : String)
  | emptyName
  deriving DecidableEq, Repr

def RegistrationFault.message : RegistrationFault → String
  | duplicateName name => "a health check named '" ++ name ++ "' is already registered"
  | emptyName => "health check name cannot be empty"

/-- Whether a name consists of blanks only. -/
def isBlankName (name : String) : Bool := Text.allBlank name.toList

/-- Checks in the order of their registration. -/
structure Registry where
  registrations : List Registration
  distinct : (registrations.map (·.name)).Nodup
  notBlank : ∀ r ∈ registrations, isBlankName r.name = false

/-- Keys that differ find what they belong to. -/
theorem find?_of_nodup_map {α : Type} {key : α → String} {l : List α} {a : α}
    (h : (l.map key).Nodup) (ha : a ∈ l) : l.find? (fun b => key b = key a) = some a := by
  induction l with
  | nil => cases ha
  | cons b l ih =>
    rw [List.map_cons, List.nodup_cons] at h
    rw [List.find?_cons]
    rcases List.mem_cons.1 ha with rfl | ha
    · simp
    · have hne : key b ≠ key a := fun heq => h.1 (heq ▸ List.mem_map_of_mem ha)
      simp only [hne, decide_false]
      exact ih h.2 ha

namespace Registry

def empty : Registry := ⟨[], .nil, by simp⟩

instance : Inhabited Registry := ⟨empty⟩

def names (g : Registry) : List String := g.registrations.map (·.name)

def size (g : Registry) : Nat := g.registrations.length

def get? (g : Registry) (name : String) : Option Registration :=
  g.registrations.find? fun r => r.name = name

/-- The checks that a selector accepts, in order. -/
def select (g : Registry) (s : Selector) : List Registration :=
  g.registrations.filter fun r => s.accepts r.name r.tags

def register (g : Registry) (r : Registration) : Except RegistrationFault Registry :=
  if hb : isBlankName r.name = true then .error .emptyName
  else if hd : r.name ∈ g.names then .error (.duplicateName r.name)
  else .ok {
    registrations := g.registrations ++ [r]
    distinct := by
      rw [List.map_append, List.nodup_append]
      refine ⟨g.distinct, by simp, ?_⟩
      intro a ha b hb h
      simp only [List.map_cons, List.map_nil, List.mem_singleton] at hb
      exact hd (hb ▸ h ▸ ha)
    notBlank := by
      intro q hq
      rcases List.mem_append.1 hq with hq | hq
      · exact g.notBlank q hq
      · rw [List.mem_singleton.1 hq]; simpa using hb }

/-- The registry with several more checks, up to the first that is refused. -/
def registerAll (g : Registry) : List Registration → Except RegistrationFault Registry
  | [] => .ok g
  | r :: rs => do (← g.register r).registerAll rs

/-- The registry after a registration that may be refused, and why it was refused, if it was. -/
def submit (g : Registry) (r : Registration) : Registry × Option RegistrationFault :=
  match g.register r with
  | .ok g' => (g', none)
  | .error fault => (g, some fault)

/-- The registry after several registrations, each of which may be refused. -/
def submitAll (g : Registry) (rs : List Registration) : Registry :=
  rs.foldl (fun g r => (g.submit r).1) g

/-- A registration is refused for a blank name or for a name that is taken, and otherwise it comes
after the others. -/
theorem register_cases (g : Registry) (r : Registration) :
    (Text.trim r.name.toList = [] ∧ g.register r = .error .emptyName) ∨
      (Text.trim r.name.toList ≠ [] ∧ r.name ∈ g.names ∧
        g.register r = .error (.duplicateName r.name)) ∨
      (Text.trim r.name.toList ≠ [] ∧ r.name ∉ g.names ∧
        ∃ g', g.register r = .ok g' ∧ g'.registrations = g.registrations ++ [r]) := by
  have hblank : isBlankName r.name = true ↔ Text.trim r.name.toList = [] :=
    Text.trim_eq_nil_iff.symm
  unfold register
  by_cases hb : isBlankName r.name = true
  · rw [dif_pos hb]
    exact .inl ⟨hblank.1 hb, rfl⟩
  · rw [dif_neg hb]
    by_cases hd : r.name ∈ g.names
    · rw [dif_pos hd]
      exact .inr (.inl ⟨mt hblank.2 hb, hd, rfl⟩)
    · rw [dif_neg hd]
      exact .inr (.inr ⟨mt hblank.2 hb, hd, _, rfl, rfl⟩)

theorem ext_registrations {g g' : Registry} (h : g.registrations = g'.registrations) : g = g' := by
  cases g
  cases g'
  cases h
  rfl

theorem get?_isSome_iff {g : Registry} {name : String} :
    (g.get? name).isSome ↔ name ∈ g.names := by
  simp [get?, names]

theorem get?_of_mem {g : Registry} {r : Registration} (hr : r ∈ g.registrations) :
    g.get? r.name = some r :=
  find?_of_nodup_map g.distinct hr

theorem nodup_names_select (g : Registry) (s : Selector) : ((g.select s).map (·.name)).Nodup :=
  g.distinct.sublist (List.filter_sublist.map _)

end Registry

def Registration.describe (r : Registration) : String :=
  "CheckRegistration \x7b name: " ++ Text.quoted r.name ++
    ", failure_status: " ++ r.failureStatus.name ++
    ", tags: " ++ Text.quotedSet r.tags.toList ++
    ", timeout: " ++ (match r.timeout with
      | some d => "Some(" ++ d.text ++ ")"
      | none => "None") ++ ", .. \x7d"

def Registry.describe (g : Registry) : String :=
  "Registry \x7b registrations: [" ++
    ", ".intercalate (g.registrations.map (·.describe)) ++ "] \x7d"

end HealthWatch
