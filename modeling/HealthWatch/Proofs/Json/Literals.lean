import HealthWatch.Json.Decode
import HealthWatch.Json.Text
/-!
# The contents of string literals

What stands between the quotes of a string literal is a row of pieces: characters that stand for
themselves, escapes of one character and escapes of a code unit. `cutString_eq_some_iff` says that
cutting a string is reading such a row up to the quote after it, and `unescape_escape` that what is
written for a text is read as this text.
-/

namespace HealthWatch.Json

/-- A part of a string literal that stands for a character or a code unit. -/
inductive Piece : List Char → Prop
  | plain {c : Char} (hquote : c ≠ '"') (hslash : c ≠ '\\') (hcontrol : 0x20 ≤ c.toNat) : Piece [c]
  | short {c : Char} (h : isShortEscape c = true) : Piece ['\\', c]
  | unit {h1 h2 h3 h4 : Char} (hx1 : isHex h1 = true) (hx2 : isHex h2 = true) (hx3 : isHex h3 = true)
    (hx4 : isHex h4 = true) : Piece ['\\', 'u', h1, h2, h3, h4]

theorem Piece.ne_nil {piece : List Char} (h : Piece piece) : piece ≠ [] := by
  cases h <;> exact List.cons_ne_nil _ _

/-- The contents of a string literal. -/
inductive Literal : List Char → Prop
  | nil : Literal []
  | cons {piece rest : List Char} (hpiece : Piece piece) (hrest : Literal rest) :
    Literal (piece ++ rest)

namespace Literal

variable {a b : List Char}

theorem append (ha : Literal a) (hb : Literal b) : Literal (a ++ b) := by
  induction ha with
  | nil => exact hb
  | cons hpiece _ ih =>
    rw [List.append_assoc]
    exact .cons hpiece ih

/-- A literal can be cut after a part without escapes. -/
theorem of_append (hslash : '\\' ∉ a) (h : Literal (a ++ b)) : Literal b := by
  induction a with
  | nil => exact h
  | cons c a ih =>
    rw [List.mem_cons, not_or] at hslash
    generalize hl : c :: a ++ b = l at h
    cases h with
    | nil => cases hl
    | cons hpiece hrest =>
      cases hpiece with
      | plain =>
        obtain ⟨-, rfl⟩ := List.cons.inj hl
        exact ih hslash.2 hrest
      | short => exact absurd (List.cons.inj hl).1.symm hslash.1
      | unit => exact absurd (List.cons.inj hl).1.symm hslash.1

end Literal

/-! ## Cutting -/

theorem cutString_piece {piece : List Char} (h : Piece piece) (cs : List Char) :
    cutString (piece ++ cs) = (cutString cs).map fun p => (piece ++ p.1, p.2) := by
  cases h with
  | plain hquote hslash hcontrol =>
    rw [List.singleton_append, cutString]
    · exact if_neg (Nat.not_lt.2 hcontrol)
    · exact hquote
    · exact fun _ _ _ _ _ h => absurd h hslash
    · exact fun _ _ h => absurd h hslash
  | short h =>
    show cutString ('\\' :: _ :: cs) = _
    rw [cutString]
    · exact if_pos h
    · rintro _ _ _ _ _ rfl
      exact absurd h (by decide)
  | unit hx1 hx2 hx3 hx4 => simp [cutString, hx1, hx2, hx3, hx4]

theorem cutString_literal {raw : List Char} (h : Literal raw) (rest : List Char) :
    cutString (raw ++ '"' :: rest) = some (raw, rest) := by
  induction h with
  | nil => simp [cutString]
  | cons hpiece _ ih => rw [List.append_assoc, cutString_piece hpiece, ih]; rfl

theorem literal_of_cutString {cs raw rest : List Char} (h : cutString cs = some (raw, rest)) :
    Literal raw ∧ cs = raw ++ '"' :: rest := by
  fun_induction cutString cs generalizing raw with
  | case1 => cases h
  | case2 rest' => cases h; exact ⟨.nil, rfl⟩
  | case3 h1 h2 h3 h4 cs hx ih =>
    obtain ⟨q, hq, heq⟩ := Option.map_eq_some_iff.1 h
    cases heq
    obtain ⟨hlit, rfl⟩ := ih hq
    simp only [Bool.and_eq_true] at hx
    exact ⟨.cons (.unit hx.1.1.1 hx.1.1.2 hx.1.2 hx.2) hlit, rfl⟩
  | case4 => cases h
  | case5 c cs _ hc ih =>
    obtain ⟨q, hq, heq⟩ := Option.map_eq_some_iff.1 h
    cases heq
    obtain ⟨hlit, rfl⟩ := ih hq
    exact ⟨.cons (.short hc) hlit, rfl⟩
  | case6 => cases h
  | case7 => cases h
  | case8 c cs hquote hunit hshort hc ih =>
    obtain ⟨q, hq, heq⟩ := Option.map_eq_some_iff.1 h
    cases heq
    have hslash : c ≠ '\\' := by
      -- A backslash at the end of the text opens no piece.
      rintro rfl
      cases cs with
      | nil => cases hq
      | cons d ds => exact hshort d ds rfl rfl
    obtain ⟨hlit, rfl⟩ := ih hq
    exact ⟨.cons (.plain hquote hslash (Nat.le_of_not_lt hc)) hlit, rfl⟩

theorem cutString_eq_some_iff {cs raw rest : List Char} :
    cutString cs = some (raw, rest) ↔ Literal raw ∧ cs = raw ++ '"' :: rest :=
  ⟨literal_of_cutString, fun h => h.2 ▸ cutString_literal h.1 rest⟩

/-! ## Escaping -/

theorem escape_cons (c : Char) (cs : List Char) : escape (c :: cs) = escapeChar c ++ escape cs := rfl

theorem escape_append (a b : List Char) : escape (a ++ b) = escape a ++ escape b :=
  List.flatMap_append

theorem escape_eq_self {cs : List Char} (h : ∀ c ∈ cs, escapeChar c = [c]) : escape cs = cs := by
  induction cs with
  | nil => rfl
  | cons c cs ih =>
    rw [escape_cons, h c List.mem_cons_self, ih fun d hd => h d (List.mem_cons_of_mem c hd)]
    rfl

theorem isHex_hexDigit {n : Nat} (h : n < 16) : isHex (hexDigit n) = true := by
  have hall : ∀ m < 16, isHex (hexDigit m) = true := by decide
  exact hall n h

theorem hexValue_hexDigit {n : Nat} (h : n < 16) : hexValue (hexDigit n) = n := by
  have hall : ∀ m < 16, hexValue (hexDigit m) = m := by decide
  exact hall n h

/-- How a character is written: by an escape of its own, as a code unit, or as it is. -/
inductive Written (c : Char) : List Char → Prop
  | short {d : Char} (hd : isShortEscape d = true) (hc : shortEscape d = c) : Written c ['\\', d]
  | unit (hc : c.toNat < 0x20) :
    Written c ['\\', 'u', '0', '0', hexDigit (c.toNat / 16), hexDigit (c.toNat % 16)]
  | plain (hquote : c ≠ '"') (hslash : c ≠ '\\') (hcontrol : 0x20 ≤ c.toNat) : Written c [c]

theorem written_escapeChar (c : Char) : Written c (escapeChar c) := by
  unfold escapeChar
  split
  · next h => exact .short (by decide) h.symm
  split
  · next h => exact .short (by decide) h.symm
  split
  · next h => exact .short (by decide) h.symm
  split
  · next h => exact .short (by decide) h.symm
  split
  · next h => exact .short (by decide) h.symm
  split
  · next h => exact .short (by decide) h.symm
  split
  · next h => exact .short (by decide) h.symm
  split
  · next h => exact .unit h
  · next hquote hslash _ _ _ _ _ hc => exact .plain hquote hslash (Nat.le_of_not_lt hc)

theorem Written.piece {c : Char} {cs : List Char} (h : Written c cs) : Piece cs := by
  cases h with
  | short hd _ => exact .short hd
  | unit hc =>
    exact .unit (by decide) (by decide) (isHex_hexDigit (by omega)) (isHex_hexDigit (by omega))
  | plain hquote hslash hcontrol => exact .plain hquote hslash hcontrol

theorem literal_escape (cs : List Char) : Literal (escape cs) := by
  induction cs with
  | nil => exact .nil
  | cons c cs ih => exact .cons (written_escapeChar c).piece ih

theorem Written.unescape {c : Char} {written : List Char} (h : Written c written) (cs : List Char) :
    unescape (written ++ cs) = (unescape cs).map (c :: ·) := by
  cases h with
  | short hd hc =>
    show Json.unescape ('\\' :: _ :: cs) = _
    rw [Json.unescape, hc]
    rintro _ _ _ _ _ rfl
    exact absurd hd (by decide)
  | unit hc =>
    have hvalue : unitValue '0' '0' (hexDigit (c.toNat / 16)) (hexDigit (c.toNat % 16)) = c.toNat := by
      unfold unitValue
      rw [hexValue_hexDigit (by omega), hexValue_hexDigit (by omega)]
      show (0 * 16 + c.toNat / 16) * 16 + c.toNat % 16 = c.toNat
      omega
    have hhigh : isHighUnit c.toNat = false := by
      simp only [isHighUnit, Bool.and_eq_false_iff, decide_eq_false_iff_not]
      omega
    have hlow : isLowUnit c.toNat = false := by
      simp only [isLowUnit, Bool.and_eq_false_iff, decide_eq_false_iff_not]
      omega
    show Json.unescape ('\\' :: 'u' :: '0' :: '0' :: _ :: _ :: cs) = _
    rw [Json.unescape.eq_def]
    simp only [hvalue, hhigh, hlow, Bool.false_eq_true, if_false, Char.ofNat_toNat]
  | plain hquote hslash hcontrol =>
    rw [List.singleton_append, Json.unescape]
    · exact fun _ _ _ _ _ h => absurd h hslash
    · exact fun _ _ h => absurd h hslash

theorem unescape_escape (cs : List Char) : unescape (escape cs) = some cs := by
  induction cs with
  | nil => rfl
  | cons c cs ih =>
    show unescape (escapeChar c ++ escape cs) = _
    rw [(written_escapeChar c).unescape, ih]
    rfl

/-- Contents without a backslash stand for themselves. -/
theorem Literal.escape_eq {raw : List Char} (h : Literal raw) (hslash : '\\' ∉ raw) :
    escape raw = raw := by
  induction h with
  | nil => rfl
  | cons hpiece _ ih =>
    rw [List.mem_append, not_or] at hslash
    rw [escape_append, ih hslash.2]
    cases hpiece with
    | @plain c hquote hbackslash hcontrol =>
      have hne : ∀ d : Char, d.toNat < 0x20 → c ≠ d := by
        rintro d hd rfl
        omega
      have hself : escapeChar c = [c] := by
        rw [escapeChar, if_neg hquote, if_neg hbackslash, if_neg (hne _ (by decide)),
          if_neg (hne _ (by decide)), if_neg (hne _ (by decide)), if_neg (hne _ (by decide)),
          if_neg (hne _ (by decide)), if_neg (Nat.not_lt.2 hcontrol)]
      rw [escape_cons, hself]
      rfl
    | short => exact absurd List.mem_cons_self hslash.1
    | unit => exact absurd List.mem_cons_self hslash.1

/-- A text whose escaped form has no backslash stands for itself. -/
theorem escape_eq_of_notMem {cs : List Char} (hslash : '\\' ∉ escape cs) : escape cs = cs := by
  have htwice := congrArg unescape ((literal_escape cs).escape_eq hslash)
  rw [unescape_escape, unescape_escape] at htwice
  exact Option.some.inj htwice

theorem stringValue?_escape (s : String) : stringValue? (escape s.toList) = some s := by
  rw [stringValue?, unescape_escape, Option.map_some, String.ofList_toList]

end HealthWatch.Json
