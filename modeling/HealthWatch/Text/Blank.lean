/-!
# Blank characters and trimming

The characters with the Unicode property White_Space, and texts without the blanks at their two
ends. `trim_eq_iff` says what is left of a text, and `trim_eq_nil_iff` that exactly the texts made of
blanks trim to nothing.
-/

namespace HealthWatch.Text

/-- The code points with the property White_Space, as inclusive ranges. -/
def blankRanges : List (Nat × Nat) :=
  [(0x9, 0xD), (0x20, 0x20), (0x85, 0x85), (0xA0, 0xA0), (0x1680, 0x1680), (0x2000, 0x200A),
    (0x2028, 0x2029), (0x202F, 0x202F), (0x205F, 0x205F), (0x3000, 0x3000)]

/-- Whether a character is white space. -/
def isBlank (c : Char) : Bool := blankRanges.any fun r => r.1 ≤ c.toNat && c.toNat ≤ r.2

/-- The text without the blanks at its front. -/
def trimStart (cs : List Char) : List Char := cs.dropWhile isBlank

/-- The text without the blanks at its end. -/
def trimEnd (cs : List Char) : List Char := (cs.reverse.dropWhile isBlank).reverse

/-- The text without the blanks at both ends. -/
def trim (cs : List Char) : List Char := trimEnd (trimStart cs)

/-- Whether a text has no character other than blanks. -/
def allBlank (cs : List Char) : Bool := cs.all isBlank

theorem dropWhile_isBlank_eq_nil_iff {cs : List Char} :
    cs.dropWhile isBlank = [] ↔ allBlank cs = true := by
  induction cs with
  | nil => simp [allBlank]
  | cons c cs ih =>
    rw [allBlank] at *
    by_cases h : isBlank c = true
    · simp [List.dropWhile, h, ih]
    · simp [List.dropWhile, h]

theorem trimEnd_eq_nil_iff {cs : List Char} : trimEnd cs = [] ↔ allBlank cs = true := by
  rw [trimEnd, List.reverse_eq_nil_iff, dropWhile_isBlank_eq_nil_iff]
  simp [allBlank]

theorem trim_eq_nil_iff {cs : List Char} : trim cs = [] ↔ allBlank cs = true := by
  rw [trim, trimEnd_eq_nil_iff, trimStart, allBlank, allBlank]
  induction cs with
  | nil => simp
  | cons c cs ih =>
    by_cases h : isBlank c = true
    · simp [List.dropWhile, h, ih]
    · simp [List.dropWhile, h]

/-! ## What is left -/

/-- A text neither begins nor ends with a blank. -/
structure Trimmed (cs : List Char) : Prop where
  head : ∀ c, cs.head? = some c → isBlank c = false
  last : ∀ c, cs.reverse.head? = some c → isBlank c = false

theorem dropWhile_isBlank_eq_self {cs : List Char}
    (h : ∀ c, cs.head? = some c → isBlank c = false) : cs.dropWhile isBlank = cs := by
  cases cs with
  | nil => rfl
  | cons c cs => rw [List.dropWhile_cons_of_neg (by rw [h c rfl]; exact Bool.false_ne_true)]

theorem isBlank_head_dropWhile {cs : List Char} {c : Char}
    (h : (cs.dropWhile isBlank).head? = some c) : isBlank c = false := by
  have hnot := List.head?_dropWhile_not isBlank cs
  rw [h] at hnot
  exact hnot

theorem exists_blank_append_dropWhile (cs : List Char) :
    ∃ front, cs = front ++ cs.dropWhile isBlank ∧ allBlank front = true :=
  ⟨cs.takeWhile isBlank, List.takeWhile_append_dropWhile.symm, List.all_takeWhile⟩

theorem exists_trimEnd_append_blank (cs : List Char) :
    ∃ back, cs = trimEnd cs ++ back ∧ allBlank back = true := by
  obtain ⟨front, hcs, hfront⟩ := exists_blank_append_dropWhile cs.reverse
  refine ⟨front.reverse, ?_, List.all_reverse.trans hfront⟩
  rw [trimEnd, ← List.reverse_append, ← hcs, List.reverse_reverse]

/-- What is left of a text neither begins nor ends with a blank. -/
theorem trimmed_trim (cs : List Char) : Trimmed (trim cs) where
  head := by
    intro c hc
    obtain ⟨back, hstart, -⟩ := exists_trimEnd_append_blank (trimStart cs)
    have hhead : (trimStart cs).head? = some c := by
      rw [hstart, List.head?_append]
      exact Option.or_eq_some_iff.2 (.inl hc)
    exact isBlank_head_dropWhile hhead
  last := by
    intro c hc
    rw [trim, trimEnd, List.reverse_reverse] at hc
    exact isBlank_head_dropWhile hc

/-- What is left of a text is the part between blanks that neither begins nor ends with one. -/
theorem trim_eq_iff {cs t : List Char} : trim cs = t ↔ Trimmed t ∧ ∃ front back,
    cs = front ++ t ++ back ∧ allBlank front = true ∧ allBlank back = true := by
  constructor
  · rintro rfl
    obtain ⟨front, hcs, hfront⟩ := exists_blank_append_dropWhile cs
    obtain ⟨back, hstart, hback⟩ := exists_trimEnd_append_blank (trimStart cs)
    refine ⟨trimmed_trim cs, front, back, ?_, hfront, hback⟩
    rw [List.append_assoc, trim, ← hstart]
    exact hcs
  · rintro ⟨ht, front, back, rfl, hfront, hback⟩
    have hstart : trimStart (front ++ t ++ back) = (t ++ back).dropWhile isBlank := by
      rw [trimStart, List.append_assoc, List.dropWhile_append_of_pos (List.all_eq_true.1 hfront)]
    have hend : trimEnd (t ++ back) = t := by
      rw [trimEnd, List.reverse_append,
        List.dropWhile_append_of_pos (List.all_eq_true.1 (List.all_reverse.trans hback)),
        dropWhile_isBlank_eq_self ht.last, List.reverse_reverse]
    rw [trim, hstart]
    cases t with
    | nil => rw [List.nil_append, dropWhile_isBlank_eq_nil_iff.2 hback]; rfl
    | cons c t =>
      have hself : (c :: t ++ back).dropWhile isBlank = c :: t ++ back :=
        dropWhile_isBlank_eq_self ht.head
      rwa [hself]

end HealthWatch.Text
