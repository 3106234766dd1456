import HealthWatch.NameSet
import HealthWatch.Text.Quoted
/-!
# Selecting checks

A selector accepts checks by their names and tags. `accepts_ofFilters` says what filters mean: with
none at all every check is accepted, and otherwise those that a name or a tag asks for.
-/

namespace HealthWatch

/-- Which checks take part in an evaluation. -/
inductive Selector where
  /-- Every check. -/
  | all
  /-- The checks of one of these names, or with one of these tags. -/
  | matching (names tags : NameSet)
  /-- The checks whose name and tags pass a test. -/
  | passing (test : String → NameSet → Bool)

namespace Selector

instance : Inhabited Selector := ⟨all⟩

/-- The check of one name. -/
def ofName (name : String) : Selector := matching (.ofList [name]) .empty

/-- The checks with one tag. -/
def ofTag (tag : String) : Selector := matching .empty (.ofList [tag])

/-- The checks that filters ask for; without filters every check. -/
def ofFilters (names tags : List String) : Selector :=
  if names = [] ∧ tags = [] then all else matching (.ofList names) (.ofList tags)

/-- Whether the selector accepts a check of this name with these tags. -/
def accepts (s : Selector) (name : String) (tags : NameSet) : Bool :=
  match s with
  | all => true
  | matching names wanted => name ∈ names || wanted.intersects tags
  | passing test => test name tags

def describe : Selector → String
  | all => "All"
  | matching names tags =>
    "Matching \x7b names: " ++ Text.quotedSet names.toList ++ ", tags: " ++
      Text.quotedSet tags.toList ++ " \x7d"
  | passing _ => "Predicate(..)"

theorem accepts_ofFilters (names wanted : List String) (name : String) (tags : NameSet) :
    (ofFilters names wanted).accepts name tags = true ↔
      (names = [] ∧ wanted = []) ∨ name ∈ names ∨ ∃ t ∈ wanted, t ∈ tags := by
  unfold ofFilters
  split
  · next h => simp [accepts, h]
  · next h =>
    simp [accepts, NameSet.intersects_iff, NameSet.mem_ofList, h]

end Selector

end HealthWatch
