import HealthWatch.Text.Blank
/-!
# Health statuses

The three statuses of a check, from best to worst. The worst of several is the status of the whole;
with none to judge the whole is healthy.
-/

namespace HealthWatch

/-- The status of a check or of a whole report. -/
inductive Status where
  | healthy
  | degraded
  | unhealthy
  deriving DecidableEq, Repr, Inhabited

namespace Status

def severity : Status → Nat
  | healthy => 0
  | degraded => 1
  | unhealthy => 2

instance : LE Status := ⟨fun a b => a.severity ≤ b.severity⟩

instance (a b : Status) : Decidable (a ≤ b) := inferInstanceAs (Decidable (a.severity ≤ b.severity))

def worse (a b : Status) : Status := if a ≤ b then b else a

def worst (statuses : List Status) : Status := statuses.foldr worse healthy

/-- The value of the status as a gauge: two for healthy, none for unhealthy. -/
def gauge : Status → Nat
  | healthy => 2
  | degraded => 1
  | unhealthy => 0

/-- Whether nothing is wrong. -/
def isHealthy (s : Status) : Bool := s = healthy

def name : Status → String
  | healthy => "Healthy"
  | degraded => "Degraded"
  | unhealthy => "Unhealthy"

instance : ToString Status := ⟨name⟩

/-- The status of exactly this name. -/
def ofName? (s : String) : Option Status :=
  if s = "Healthy" then some healthy
  else if s = "Degraded" then some degraded
  else if s = "Unhealthy" then some unhealthy
  else none

/-- The status that a configuration text names, blanks and the case of letters aside. -/
def read? (s : String) : Option Status :=
  let word := (Text.trim s.toList).map Char.toLower
  if word = "healthy".toList then some healthy
  else if word = "degraded".toList then some degraded
  else if word = "unhealthy".toList then some unhealthy
  else none

/-- What is wrong with a text that names no status. -/
def unknownMessage (s : String) : String :=
  "unknown status '" ++ s ++ "', expected healthy, degraded or unhealthy"

@[simp] theorem ofName?_name (s : Status) : ofName? s.name = some s := by
  cases s <;> decide

theorem worse_eq_max (a b : Status) : (worse a b).severity = max a.severity b.severity := by
  cases a <;> cases b <;> rfl

/-- Each of the statuses is at most as bad as the worst. -/
theorem le_worst {s : Status} {l : List Status} (h : s ∈ l) : s ≤ worst l := by
  induction l with
  | nil => simp at h
  | cons a l ih =>
    have hw : (worst (a :: l)).severity = max a.severity (worst l).severity := worse_eq_max a _
    show s.severity ≤ _
    rw [hw]
    rcases List.mem_cons.1 h with rfl | h
    · exact Nat.le_max_left _ _
    · exact Nat.le_trans (ih h) (Nat.le_max_right _ _)

/-- The worst of several statuses is one of them. -/
theorem worst_mem {l : List Status} (h : l ≠ []) : worst l ∈ l := by
  induction l with
  | nil => exact absurd rfl h
  | cons a l ih =>
    show worse a (worst l) ∈ a :: l
    cases l with
    | nil => cases a <;> decide
    | cons b l =>
      have hl : worst (b :: l) ∈ b :: l := ih (List.cons_ne_nil b l)
      unfold worse
      split
      · exact List.mem_cons_of_mem _ hl
      · exact List.mem_cons_self

end Status

/-- The response codes that report the three statuses; degraded still serves. -/
structure ResponseCodes where
  healthy : Nat := 200
  degraded : Nat := 200
  unhealthy : Nat := 503
  deriving DecidableEq, Repr

def ResponseCodes.code (codes : ResponseCodes) : Status → Nat
  | .healthy => codes.healthy
  | .degraded => codes.degraded
  | .unhealthy => codes.unhealthy

end HealthWatch
