/-!
# Replacing parts of a text

Each occurrence of a pattern, from left to right and without overlaps, gives way to another text.
What has been put in is not searched again.
-/

namespace HealthWatch.Text

/-- The text after its first `skip` characters, with each further occurrence of `pattern`
replaced. -/
def replaceAfter (pattern new : List Char) : Nat → List Char → List Char
  | _, [] => []
  | skip + 1, _ :: cs => replaceAfter pattern new skip cs
  | 0, c :: cs =>
    if pattern.isPrefixOf (c :: cs) then new ++ replaceAfter pattern new (pattern.length - 1) cs
    else c :: replaceAfter pattern new 0 cs

/-- The text with each occurrence of `pattern`, which is not empty, replaced by `new`. -/
def replaceAll (pattern new cs : List Char) : List Char := replaceAfter pattern new 0 cs

theorem replaceAfter_eq_drop (pattern new : List Char) (skip : Nat) (cs : List Char) :
    replaceAfter pattern new skip cs = replaceAll pattern new (cs.drop skip) := by
  induction cs generalizing skip with
  | nil => cases skip <;> simp [replaceAfter, replaceAll]
  | cons c cs ih => cases skip with
    | zero => rfl
    | succ skip => simpa [replaceAfter] using ih skip

theorem replaceAll_of_isPrefixOf {pattern new cs : List Char} (hne : pattern ≠ [])
    (h : pattern.isPrefixOf cs = true) :
    replaceAll pattern new cs = new ++ replaceAll pattern new (cs.drop pattern.length) := by
  cases cs with
  | nil => cases pattern <;> simp_all
  | cons c cs =>
    rw [replaceAll, replaceAfter, if_pos h, replaceAfter_eq_drop]
    cases pattern with
    | nil => simp at hne
    | cons p ps => simp

theorem replaceAll_cons_of_not_isPrefixOf {pattern new cs : List Char} {c : Char}
    (h : pattern.isPrefixOf (c :: cs) = false) :
    replaceAll pattern new (c :: cs) = c :: replaceAll pattern new cs := by
  rw [replaceAll, replaceAfter, if_neg (by simp [h]), replaceAll]

end HealthWatch.Text
