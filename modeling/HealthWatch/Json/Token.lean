import HealthWatch.Text.Numeral
/-!
# Tokens of JSON texts

A text is cut into tokens. A string token keeps the characters between its quotes as they are
written, with their escapes, and a number token keeps its digits. Where a text stops being
JSON a `fault` token ends the list.
-/

namespace HealthWatch.Json

/-- A number as it is written. -/
structure NumberText where
  negative : Bool
  whole : List Char
  fraction : Option (List Char)
  /-- Whether the exponent is negative, and its digits. -/
  exponent : Option (Bool × List Char)
  deriving DecidableEq

/-- The words of JSON. -/
inductive Word where
  | null
  | true
  | false
  deriving DecidableEq

/-- A token of a JSON text. -/
inductive Token where
  | openArray
  | closeArray
  | openObject
  | closeObject
  | colon
  | comma
  | word (w : Word)
  | number (n : NumberText)
  | string (raw : List Char)
  | fault
  deriving DecidableEq

/-- Whether a character may stand between tokens. -/
def isSpace (c : Char) : Bool := c = ' ' || c = '\t' || c = '\n' || c = '\r'

/-- Whether a character is a hexadecimal digit. -/
def isHex (c : Char) : Bool :=
  c.isDigit || ('a' ≤ c && c ≤ 'f') || ('A' ≤ c && c ≤ 'F')

/-- Whether a character names an escape of one character. -/
def isShortEscape (c : Char) : Bool := c ∈ ['"', '\\', '/', 'b', 'f', 'n', 'r', 't']

/-- The contents of a string up to its closing quote, and the text after the quote. -/
def cutString : List Char → Option (List Char × List Char)
  | [] => none
  | '"' :: rest => some ([], rest)
  | '\\' :: 'u' :: h1 :: h2 :: h3 :: h4 :: rest =>
    if isHex h1 && isHex h2 && isHex h3 && isHex h4 then
      (cutString rest).map fun p => ('\\' :: 'u' :: h1 :: h2 :: h3 :: h4 :: p.1, p.2)
    else none
  | '\\' :: c :: rest =>
    if isShortEscape c then (cutString rest).map fun p => ('\\' :: c :: p.1, p.2) else none
  | c :: rest =>
    if c.toNat < 0x20 then none else (cutString rest).map fun p => (c :: p.1, p.2)

/-- The digits at the front of a text and the text after them. -/
def cutDigits (cs : List Char) : List Char × List Char :=
  (cs.takeWhile Char.isDigit, cs.dropWhile Char.isDigit)

/-- The digits before the point: a zero, or a numeral that begins with another digit. -/
def cutWhole : List Char → Option (List Char × List Char)
  | '0' :: rest =>
    match rest with
    | c :: _ => if c.isDigit then none else some (['0'], rest)
    | [] => some (['0'], rest)
  | c :: rest => if c.isDigit then some (cutDigits (c :: rest)) else none
  | [] => none

/-- The digits after the point, if there is a point. -/
def cutFraction : List Char → Option (Option (List Char) × List Char)
  | '.' :: rest =>
    let (digits, rest) := cutDigits rest
    if digits = [] then none else some (some digits, rest)
  | rest => some (none, rest)

/-- The sign of an exponent; a plus sign may be left out. -/
def cutSign : List Char → Bool × List Char
  | '-' :: rest => (true, rest)
  | '+' :: rest => (false, rest)
  | rest => (false, rest)

/-- The exponent, if there is one. -/
def cutExponent : List Char → Option (Option (Bool × List Char) × List Char)
  | c :: rest =>
    if c = 'e' || c = 'E' then
      let (negative, rest) := cutSign rest
      let (digits, rest) := cutDigits rest
      if digits = [] then none else some (some (negative, digits), rest)
    else some (none, c :: rest)
  | [] => some (none, [])

/-- The number at the front of a text and the text after it. -/
def cutNumber (cs : List Char) : Option (NumberText × List Char) := do
  let (negative, rest) := match cs with
    | '-' :: rest => (true, rest)
    | _ => (false, cs)
  let (whole, rest) ← cutWhole rest
  let (fraction, rest) ← cutFraction rest
  let (exponent, rest) ← cutExponent rest
  return (⟨negative, whole, fraction, exponent⟩, rest)

/-- The token at the front of a text that does not begin with a space, and the text after it. -/
def cutToken : List Char → Option (Token × List Char)
  | [] => none
  | '[' :: rest => some (.openArray, rest)
  | ']' :: rest => some (.closeArray, rest)
  | '\x7b' :: rest => some (.openObject, rest)
  | '\x7d' :: rest => some (.closeObject, rest)
  | ':' :: rest => some (.colon, rest)
  | ',' :: rest => some (.comma, rest)
  | 'n' :: 'u' :: 'l' :: 'l' :: rest => some (.word .null, rest)
  | 't' :: 'r' :: 'u' :: 'e' :: rest => some (.word .true, rest)
  | 'f' :: 'a' :: 'l' :: 's' :: 'e' :: rest => some (.word .false, rest)
  | '"' :: rest => (cutString rest).map fun p => (.string p.1, p.2)
  | cs => (cutNumber cs).map fun p => (.number p.1, p.2)

/-! ## Cutting takes something away -/

theorem length_cutString {cs : List Char} {p : List Char × List Char} (h : cutString cs = some p) :
    p.2.length < cs.length := by
  fun_induction cutString cs generalizing p with
  | case1 => simp at h
  | case2 rest => cases h; simp
  | case3 h1 h2 h3 h4 rest hx ih =>
    obtain ⟨q, hq, rfl⟩ := Option.map_eq_some_iff.1 h
    have := ih hq; simp; omega
  | case4 => simp at h
  | case5 c rest _ _ ih =>
    obtain ⟨q, hq, rfl⟩ := Option.map_eq_some_iff.1 h
    have := ih hq; simp; omega
  | case6 => simp at h
  | case7 => simp at h
  | case8 c rest _ _ _ _ ih =>
    obtain ⟨q, hq, rfl⟩ := Option.map_eq_some_iff.1 h
    have := ih hq; simp; omega

theorem length_cutDigits (cs : List Char) : (cutDigits cs).2.length ≤ cs.length :=
  (List.dropWhile_sublist _).length_le

theorem length_cutWhole {cs : List Char} {p : List Char × List Char} (h : cutWhole cs = some p) :
    p.2.length < cs.length := by
  unfold cutWhole at h
  split at h
  · split at h
    · split at h
      · simp at h
      · cases h; simp
    · cases h; simp
  · next c rest _ =>
    split at h
    · next hc =>
      cases h
      have hle : (rest.dropWhile Char.isDigit).length ≤ rest.length :=
        (List.dropWhile_sublist _).length_le
      simp [cutDigits, List.dropWhile, hc]; omega
    · simp at h
  · simp at h

theorem length_cutFraction {cs : List Char} {p : Option (List Char) × List Char}
    (h : cutFraction cs = some p) : p.2.length ≤ cs.length := by
  unfold cutFraction at h
  split at h
  · next rest =>
    have := length_cutDigits rest
    simp only at h
    split at h
    · simp at h
    · cases h; simp; omega
  · cases h; simp

theorem length_cutSign (cs : List Char) : (cutSign cs).2.length ≤ cs.length := by
  unfold cutSign; split <;> simp

theorem length_cutExponent {cs : List Char} {p : Option (Bool × List Char) × List Char}
    (h : cutExponent cs = some p) : p.2.length ≤ cs.length := by
  unfold cutExponent at h
  split at h
  · next c rest =>
    have h1 := length_cutSign rest
    have h2 := length_cutDigits (cutSign rest).2
    split at h
    · simp only at h
      split at h
      · simp at h
      · cases h; simp; omega
    · cases h; simp
  · cases h; simp

theorem length_cutNumber {cs : List Char} {p : NumberText × List Char}
    (h : cutNumber cs = some p) : p.2.length < cs.length := by
  unfold cutNumber at h
  simp only [bind, Option.bind_eq_some_iff, Prod.exists] at h
  obtain ⟨w, r1, h1, f, r2, h2, e, r3, h3, h4⟩ := h
  have l1 := length_cutWhole h1
  have l2 := length_cutFraction h2
  have l3 := length_cutExponent h3
  cases h4
  revert l1
  split <;> intro l1 <;> simp at * <;> omega

theorem length_cutToken {cs : List Char} {p : Token × List Char} (h : cutToken cs = some p) :
    p.2.length < cs.length := by
  unfold cutToken at h
  split at h
  case h_11 =>
    obtain ⟨q, hq, rfl⟩ := Option.map_eq_some_iff.1 h
    have := length_cutString hq
    simp; omega
  case h_12 =>
    obtain ⟨q, hq, rfl⟩ := Option.map_eq_some_iff.1 h
    exact length_cutNumber hq
  all_goals simp at h
  all_goals subst h; simp only [List.length_cons]; omega

def tokens (cs : List Char) : List Token :=
  if cs.dropWhile isSpace = [] then []
  else
    match _h : cutToken (cs.dropWhile isSpace) with
    | some (t, rest) => t :: tokens rest
    | none => [.fault]
termination_by cs.length
decreasing_by
  exact Nat.lt_of_lt_of_le (length_cutToken _h) (List.dropWhile_sublist isSpace).length_le

end HealthWatch.Json
