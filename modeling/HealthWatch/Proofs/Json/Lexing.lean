import HealthWatch.Proofs.Json.Literals
import Mathlib.Data.List.DropRight
/-!
# Lexemes and tokens

`Lexeme` says which texts stand for a token and `Lexed` how a text is made of lexemes with blanks
between them. `cutToken_lexeme` and `lexeme_of_cutToken` tie cutting one token to the first, and
`lexed_iff` the tokens of a whole text to the second: they are the tokens of its lexemes, unless the text
has a fault.
-/

namespace HealthWatch.Json

/-! ## Numbers -/

/-- One digit or more. -/
def IsDigits (ds : List Char) : Prop := ds ≠ [] ∧ ∀ c ∈ ds, c.isDigit = true

/-- The digits before the point; a zero at their front stands alone. -/
def IsWhole (ds : List Char) : Prop := IsDigits ds ∧ (ds.head? = some '0' → ds = ['0'])

/-- The text of a sign. -/
def signText (negative : Bool) : List Char := if negative then ['-'] else []

/-- The text of a fraction. -/
def fractionText : Option (List Char) → List Char
  | some ds => '.' :: ds
  | none => []

/-- The texts of an exponent. -/
inductive ExponentText : Option (Bool × List Char) → List Char → Prop
  | none : ExponentText none []
  | some {e : Char} {negative : Bool} {sign ds : List Char} (he : e = 'e' ∨ e = 'E')
    (hsign : sign = signText negative ∨ negative = false ∧ sign = ['+']) (hds : IsDigits ds) :
    ExponentText (some (negative, ds)) (e :: (sign ++ ds))

/-- The texts of a number. -/
inductive NumberLexeme : NumberText → List Char → Prop
  | mk {negative : Bool} {whole : List Char} {fraction : Option (List Char)}
    {exponent : Option (Bool × List Char)} {e : List Char} (hwhole : IsWhole whole)
    (hfraction : ∀ ds ∈ fraction, IsDigits ds) (hexponent : ExponentText exponent e) :
    NumberLexeme ⟨negative, whole, fraction, exponent⟩
      (signText negative ++ (whole ++ (fractionText fraction ++ e)))

/-- A text does not begin with a digit. -/
def NoDigit (cs : List Char) : Prop := ∀ c ∈ cs.head?, c.isDigit = false

/-- A text does not go on with a number that ends before it. -/
def Apart (cs : List Char) : Prop :=
  ∀ c ∈ cs.head?, c.isDigit = false ∧ c ≠ '.' ∧ c ≠ 'e' ∧ c ≠ 'E'

theorem Apart.noDigit {cs : List Char} (h : Apart cs) : NoDigit cs := fun c hc => (h c hc).1

theorem cutDigits_append {ds rest : List Char} (hds : ∀ c ∈ ds, c.isDigit = true)
    (hrest : NoDigit rest) : cutDigits (ds ++ rest) = (ds, rest) := by
  unfold cutDigits
  rw [List.takeWhile_append_of_pos hds, List.dropWhile_append_of_pos hds]
  cases rest with
  | nil => simp
  | cons c cs => simp [hrest c rfl]

theorem cutWhole_append {ds rest : List Char} (hds : IsWhole ds) (hrest : NoDigit rest) :
    cutWhole (ds ++ rest) = some (ds, rest) := by
  obtain ⟨⟨hne, hall⟩, hzero⟩ := hds
  obtain ⟨c, cs, rfl⟩ := List.exists_cons_of_ne_nil hne
  by_cases hc : c = '0'
  · subst hc
    obtain rfl : cs = [] := by simpa using hzero rfl
    cases rest with
    | nil => rfl
    | cons d ds => simp [cutWhole, hrest d rfl]
  · -- Without a zero at its front the numeral has all the digits.
    rw [List.cons_append, cutWhole]
    · rw [if_pos (hall c List.mem_cons_self), ← List.cons_append, cutDigits_append hall hrest]
    · exact hc

theorem cutFraction_append {fraction : Option (List Char)} {rest : List Char}
    (hfraction : ∀ ds ∈ fraction, IsDigits ds) (hrest : NoDigit rest)
    (hdot : rest.head? ≠ some '.') :
    cutFraction (fractionText fraction ++ rest) = some (fraction, rest) := by
  cases fraction with
  | none =>
    rw [fractionText, List.nil_append, cutFraction]
    rintro _ rfl
    exact hdot rfl
  | some ds =>
    obtain ⟨hne, hall⟩ := hfraction ds rfl
    rw [fractionText, List.cons_append, cutFraction, cutDigits_append hall hrest]
    exact if_neg hne

theorem cutExponent_append {exponent : Option (Bool × List Char)} {e rest : List Char}
    (he : ExponentText exponent e) (hrest : Apart rest) :
    cutExponent (e ++ rest) = some (exponent, rest) := by
  cases he with
  | none =>
    cases rest with
    | nil => rfl
    | cons c cs =>
      obtain ⟨-, -, he, hE⟩ := hrest c rfl
      simp [cutExponent, he, hE]
  | @some e negative sign ds he hsign hds =>
    -- The digits after the sign are not taken for a sign.
    have hsigned : cutSign (sign ++ ds ++ rest) = (negative, ds ++ rest) := by
      obtain ⟨c, cs, rfl⟩ := List.exists_cons_of_ne_nil hds.1
      have hc := hds.2 c List.mem_cons_self
      rcases hsign with rfl | ⟨rfl, rfl⟩
      · cases negative with
        | true => rfl
        | false =>
          show cutSign (c :: (cs ++ rest)) = _
          rw [cutSign]
          · rfl
          · intro _ h
            rw [(List.cons.inj h).1] at hc
            exact absurd hc (by decide)
          · intro _ h
            rw [(List.cons.inj h).1] at hc
            exact absurd hc (by decide)
      · rfl
    have heE : (e = 'e' || e = 'E') = true := by simpa using he
    rw [List.cons_append, cutExponent, if_pos heE, hsigned]
    dsimp only
    rw [cutDigits_append hds.2 hrest.noDigit]
    exact if_neg hds.1

/-- The number at the front of a text, once its sign has been taken off. -/
def cutUnsigned (negative : Bool) (cs : List Char) : Option (NumberText × List Char) := do
  let (whole, rest) ← cutWhole cs
  let (fraction, rest) ← cutFraction rest
  let (exponent, rest) ← cutExponent rest
  return (⟨negative, whole, fraction, exponent⟩, rest)

theorem cutNumber_minus (cs : List Char) : cutNumber ('-' :: cs) = cutUnsigned true cs := rfl

theorem cutNumber_of_ne {cs : List Char} (h : cs.head? ≠ some '-') :
    cutNumber cs = cutUnsigned false cs := by
  unfold cutNumber
  split
  · next hsign =>
    split at hsign
    · exact absurd rfl h
    · cases hsign
      rfl

theorem cutUnsigned_append {whole e rest : List Char} {fraction : Option (List Char)}
    {exponent : Option (Bool × List Char)} (negative : Bool) (hwhole : IsWhole whole)
    (hfraction : ∀ ds ∈ fraction, IsDigits ds) (hexponent : ExponentText exponent e)
    (hrest : Apart rest) :
    cutUnsigned negative (whole ++ (fractionText fraction ++ (e ++ rest))) =
      some (⟨negative, whole, fraction, exponent⟩, rest) := by
  have hend : NoDigit (e ++ rest) := by
    cases hexponent with
    | none => exact hrest.noDigit
    | some he _ _ => rcases he with rfl | rfl <;> (intro c hc; cases hc; rfl)
  have hdot : (e ++ rest).head? ≠ some '.' := by
    cases hexponent with
    | none => exact fun h => (hrest _ h).2.1 rfl
    | some he _ _ => rcases he with rfl | rfl <;> simp
  have hpoint : NoDigit (fractionText fraction ++ (e ++ rest)) := by
    cases fraction with
    | none => exact hend
    | some ds => intro c hc; cases hc; rfl
  unfold cutUnsigned
  simp only [bind, Option.bind, pure]
  rw [cutWhole_append hwhole hpoint]
  dsimp only
  rw [cutFraction_append hfraction hend hdot]
  dsimp only
  rw [cutExponent_append hexponent hrest]

theorem cutNumber_append {n : NumberText} {w rest : List Char} (h : NumberLexeme n w)
    (hrest : Apart rest) : cutNumber (w ++ rest) = some (n, rest) := by
  obtain @⟨negative, whole, fraction, exponent, e, hwhole, hfraction, hexponent⟩ := h
  have hcut := cutUnsigned_append negative hwhole hfraction hexponent hrest
  simp only [List.append_assoc]
  cases negative with
  | true => exact hcut
  | false =>
    rw [signText, if_neg Bool.false_ne_true, List.nil_append, cutNumber_of_ne, hcut]
    obtain ⟨c, cs, rfl⟩ := List.exists_cons_of_ne_nil hwhole.1.1
    have hc := hwhole.1.2 c List.mem_cons_self
    intro h
    rw [Option.some.inj h] at hc
    exact absurd hc (by decide)

/-! What is cut off is the text of a number, and no digit follows. -/

theorem cutDigits_eq {cs ds rest : List Char} (h : cutDigits cs = (ds, rest)) :
    cs = ds ++ rest ∧ (∀ c ∈ ds, c.isDigit = true) ∧ NoDigit rest := by
  obtain ⟨rfl, rfl⟩ := Prod.mk.inj h
  refine ⟨List.takeWhile_append_dropWhile.symm, List.all_eq_true.1 List.all_takeWhile, ?_⟩
  intro c hc
  have h := List.head?_dropWhile_not Char.isDigit cs
  rw [Option.mem_def.1 hc] at h
  exact h

theorem cutWhole_eq {cs ds rest : List Char} (h : cutWhole cs = some (ds, rest)) :
    cs = ds ++ rest ∧ IsWhole ds ∧ NoDigit rest := by
  have hzero : IsWhole ['0'] := ⟨⟨by simp, by simp⟩, fun _ => rfl⟩
  unfold cutWhole at h
  split at h
  · split at h
    · split at h
      · cases h
      · next hc =>
        cases h
        refine ⟨rfl, hzero, ?_⟩
        intro d hd
        cases hd
        simpa using hc
    · cases h
      exact ⟨rfl, hzero, fun _ hd => nomatch hd⟩
  · next c cs hc =>
    split at h
    · next hdigit =>
      obtain ⟨heq, hall, hrest⟩ := cutDigits_eq (Option.some.inj h)
      obtain ⟨ds', rfl⟩ : ∃ ds', ds = c :: ds' := by
        refine ⟨cs.takeWhile Char.isDigit, ?_⟩
        have hds := (Prod.mk.inj (Option.some.inj h)).1
        rw [List.takeWhile_cons_of_pos hdigit] at hds
        exact hds.symm
      refine ⟨heq, ⟨⟨List.cons_ne_nil _ _, hall⟩, ?_⟩, hrest⟩
      intro h0
      exact absurd (Option.some.inj h0) hc
    · cases h
  · cases h

theorem cutFraction_eq {cs rest : List Char} {fraction : Option (List Char)} (hcs : NoDigit cs)
    (h : cutFraction cs = some (fraction, rest)) :
    cs = fractionText fraction ++ rest ∧ (∀ ds ∈ fraction, IsDigits ds) ∧ NoDigit rest := by
  unfold cutFraction at h
  split at h
  · next cs =>
    obtain ⟨heq, hall, hrest⟩ := cutDigits_eq (rfl : cutDigits cs = _)
    dsimp only at h
    split at h
    · cases h
    · next hne =>
      cases h
      refine ⟨congrArg ('.' :: ·) heq, ?_, hrest⟩
      intro ds hds
      cases hds
      exact ⟨hne, hall⟩
  · cases h
    refine ⟨rfl, ?_, hcs⟩
    intro ds hds
    cases hds

theorem cutSign_eq {cs rest : List Char} {negative : Bool} (h : cutSign cs = (negative, rest)) :
    ∃ sign, cs = sign ++ rest ∧
      (sign = signText negative ∨ negative = false ∧ sign = ['+']) := by
  unfold cutSign at h
  split at h <;> cases h
  · exact ⟨['-'], rfl, .inl rfl⟩
  · exact ⟨['+'], rfl, .inr ⟨rfl, rfl⟩⟩
  · exact ⟨[], rfl, .inl rfl⟩

theorem cutExponent_eq {cs rest : List Char} {exponent : Option (Bool × List Char)}
    (hcs : NoDigit cs) (h : cutExponent cs = some (exponent, rest)) :
    ∃ e, cs = e ++ rest ∧ ExponentText exponent e ∧ NoDigit rest := by
  unfold cutExponent at h
  split at h
  · next c cs =>
    split at h
    · next hc =>
      obtain ⟨sign, hsign, hplus⟩ := cutSign_eq (Prod.eta (cutSign cs)).symm
      obtain ⟨hdigits, hall, hrest⟩ := cutDigits_eq (Prod.eta (cutDigits (cutSign cs).2)).symm
      dsimp only at h
      split at h
      · cases h
      · next hne =>
        cases h
        refine ⟨_, ?_, .some (by simpa using hc) hplus ⟨hne, hall⟩, hrest⟩
        rw [List.cons_append, List.append_assoc, ← hdigits, ← hsign]
    · cases h
      exact ⟨[], rfl, .none, hcs⟩
  · cases h
    exact ⟨[], rfl, .none, hcs⟩

theorem cutUnsigned_eq {negative : Bool} {cs rest : List Char} {n : NumberText}
    (h : cutUnsigned negative cs = some (n, rest)) :
    ∃ w, cs = w ++ rest ∧ NumberLexeme n (signText negative ++ w) ∧ NoDigit rest := by
  simp only [cutUnsigned, bind, Option.bind_eq_some_iff, Prod.exists] at h
  obtain ⟨whole, r, hwhole, fraction, r', hfraction, exponent, r'', hexponent, hn⟩ := h
  cases hn
  obtain ⟨rfl, hw, hr⟩ := cutWhole_eq hwhole
  obtain ⟨rfl, hf, hr'⟩ := cutFraction_eq hr hfraction
  obtain ⟨e, rfl, he, hrest⟩ := cutExponent_eq hr' hexponent
  refine ⟨_, ?_, .mk hw hf he, hrest⟩
  simp only [List.append_assoc]

theorem cutNumber_eq {cs rest : List Char} {n : NumberText} (h : cutNumber cs = some (n, rest)) :
    ∃ w, cs = w ++ rest ∧ NumberLexeme n w ∧ NoDigit rest := by
  by_cases hsign : cs.head? = some '-'
  · obtain ⟨cs, rfl⟩ := List.head?_eq_some_iff.1 hsign
    obtain ⟨w, rfl, hw, hrest⟩ := cutUnsigned_eq (cutNumber_minus cs ▸ h)
    exact ⟨'-' :: w, rfl, hw, hrest⟩
  · exact cutUnsigned_eq (cutNumber_of_ne hsign ▸ h)

/-! ## Lexemes -/

/-- The text of a token that is always written alike. -/
def Token.fixedText : Token → Option (List Char)
  | .openArray => some ['[']
  | .closeArray => some [']']
  | .openObject => some ['\x7b']
  | .closeObject => some ['\x7d']
  | .colon => some [':']
  | .comma => some [',']
  | .word .null => some ['n', 'u', 'l', 'l']
  | .word .true => some ['t', 'r', 'u', 'e']
  | .word .false => some ['f', 'a', 'l', 's', 'e']
  | .number _ | .string _ | .fault => none

/-- The texts of a token. -/
inductive Lexeme : Token → List Char → Prop
  | fixed {t : Token} {w : List Char} (h : t.fixedText = some w) : Lexeme t w
  | number {n : NumberText} {w : List Char} (h : NumberLexeme n w) : Lexeme (.number n) w
  | string {raw : List Char} (h : Literal raw) : Lexeme (.string raw) ('"' :: (raw ++ ['"']))

/-- A token ends before a text. Only a number could go on. -/
def Token.EndsBefore (t : Token) (rest : List Char) : Prop := ∀ n, t = .number n → Apart rest

/-- The characters that begin a number. -/
def beginsNumber (c : Char) : Bool := c = '-' || c.isDigit

/-- The characters that begin a token. -/
def beginsToken (c : Char) : Bool :=
  c ∈ ['[', ']', '\x7b', '\x7d', ':', ',', 'n', 't', 'f', '"'] || beginsNumber c

theorem NumberLexeme.exists_cons {n : NumberText} {w : List Char} (h : NumberLexeme n w) :
    ∃ c cs, w = c :: cs ∧ beginsNumber c = true := by
  obtain @⟨negative, whole, fraction, exponent, e, hwhole, -, -⟩ := h
  cases negative with
  | true => exact ⟨'-', _, rfl, rfl⟩
  | false =>
    obtain ⟨c, cs, rfl⟩ := List.exists_cons_of_ne_nil hwhole.1.1
    refine ⟨c, _, rfl, ?_⟩
    simp [beginsNumber, hwhole.1.2 c List.mem_cons_self]

theorem Lexeme.exists_cons {t : Token} {w : List Char} (h : Lexeme t w) :
    ∃ c cs, w = c :: cs ∧ beginsToken c = true := by
  cases h with
  | fixed h =>
    unfold Token.fixedText at h
    split at h <;> cases h <;> exact ⟨_, _, rfl, rfl⟩
  | number h =>
    obtain ⟨c, cs, rfl, hc⟩ := h.exists_cons
    exact ⟨c, cs, rfl, by simp [beginsToken, hc]⟩
  | string h => exact ⟨_, _, rfl, rfl⟩

theorem isSpace_of_beginsToken {c : Char} (h : beginsToken c = true) : isSpace c = false := by
  rw [Bool.eq_false_iff]
  intro hc
  have hall : c = ' ' ∨ c = '\t' ∨ c = '\n' ∨ c = '\r' := by
    simpa [isSpace, or_assoc] using hc
  rcases hall with rfl | rfl | rfl | rfl <;> exact absurd h (by decide)

theorem cutToken_number {c : Char} (cs : List Char) (h : beginsNumber c = true) :
    cutToken (c :: cs) = (cutNumber (c :: cs)).map fun p => (.number p.1, p.2) := by
  have hne : ∀ d, beginsNumber d = false → c ≠ d := by
    rintro d hd rfl
    rw [h] at hd
    cases hd
  rw [cutToken]
  · exact List.cons_ne_nil c cs
  all_goals
    intro rest heq
    refine absurd (List.cons.inj heq).1 (hne _ (by decide))

theorem cutToken_lexeme {t : Token} {w rest : List Char} (h : Lexeme t w)
    (hrest : t.EndsBefore rest) : cutToken (w ++ rest) = some (t, rest) := by
  cases h with
  | fixed h =>
    unfold Token.fixedText at h
    split at h <;> cases h <;> rfl
  | number h =>
    obtain ⟨c, cs, rfl, hc⟩ := h.exists_cons
    have hcut := cutNumber_append h (hrest _ rfl)
    rw [List.cons_append] at hcut ⊢
    rw [cutToken_number _ hc, hcut]
    rfl
  | string h =>
    rw [List.cons_append, List.append_assoc, List.singleton_append]
    show (cutString _).map _ = _
    rw [cutString_eq_some_iff.2 ⟨h, rfl⟩]
    rfl

theorem lexeme_of_cutToken {t : Token} {cs rest : List Char} (h : cutToken cs = some (t, rest)) :
    ∃ w, cs = w ++ rest ∧ Lexeme t w ∧ ∀ n, t = .number n → NoDigit rest := by
  unfold cutToken at h
  split at h
  case h_11 cs =>
    obtain ⟨⟨raw, r⟩, hcut, heq⟩ := Option.map_eq_some_iff.1 h
    cases heq
    obtain ⟨hraw, rfl⟩ := cutString_eq_some_iff.1 hcut
    refine ⟨_, ?_, .string hraw, fun _ h => nomatch h⟩
    rw [List.cons_append, List.append_assoc, List.singleton_append]
  case h_12 =>
    obtain ⟨⟨n, r⟩, hcut, heq⟩ := Option.map_eq_some_iff.1 h
    cases heq
    obtain ⟨w, rfl, hw, hrest⟩ := cutNumber_eq hcut
    exact ⟨w, rfl, .number hw, fun _ _ => hrest⟩
  all_goals
    cases h
  all_goals
    exact ⟨_, rfl, .fixed rfl, fun _ h => nomatch h⟩

/-! ## Whole texts -/

/-- A text is made of the lexemes of some tokens, with blanks around them. -/
inductive Lexed : List Char → List Token → Prop
  | nil : Lexed [] []
  | space {c : Char} {cs : List Char} {ts : List Token} (hc : isSpace c = true) (h : Lexed cs ts) :
    Lexed (c :: cs) ts
  | token {t : Token} {w rest : List Char} {ts : List Token} (ht : Lexeme t w)
    (hend : t.EndsBefore rest) (h : Lexed rest ts) : Lexed (w ++ rest) (t :: ts)

theorem Lexed.of_dropWhile {cs : List Char} {ts : List Token}
    (h : Lexed (cs.dropWhile isSpace) ts) : Lexed cs ts := by
  induction cs with
  | nil => exact h
  | cons c cs ih =>
    by_cases hc : isSpace c = true
    · rw [List.dropWhile_cons_of_pos hc] at h
      exact .space hc (ih h)
    · rwa [List.dropWhile_cons_of_neg hc] at h

theorem Lexed.head {c : Char} {cs : List Char} {ts : List Token} (h : Lexed (c :: cs) ts) :
    isSpace c = true ∨ beginsToken c = true := by
  generalize hl : c :: cs = l at h
  cases h with
  | nil => cases hl
  | space hc _ => cases hl; exact .inl hc
  | token ht _ _ =>
    obtain ⟨d, ds, rfl, hd⟩ := ht.exists_cons
    cases hl
    exact .inr hd

/-- A bracket that opens an array is followed by another text of lexemes. -/
theorem Lexed.of_openArray {cs : List Char} {ts : List Token} (h : Lexed ('[' :: cs) ts) :
    ∃ ts', Lexed cs ts' := by
  generalize hl : '[' :: cs = l at h
  cases h with
  | nil => cases hl
  | space hc _ =>
    cases hl
    exact absurd hc (by decide)
  | @token t w rest ts ht _ h =>
    cases ht with
    | fixed ht =>
      unfold Token.fixedText at ht
      split at ht <;> cases ht <;> cases hl
      exact ⟨_, h⟩
    | number ht =>
      obtain ⟨c, w, rfl, hc⟩ := ht.exists_cons
      cases hl
      exact absurd hc (by decide)
    | string => cases hl

theorem tokens_dropWhile (cs : List Char) : tokens (cs.dropWhile isSpace) = tokens cs := by
  rw [tokens.eq_def, tokens.eq_def cs, List.dropWhile_idempotent]

theorem tokens_of_lexed {cs : List Char} {ts : List Token} (h : Lexed cs ts) : tokens cs = ts := by
  induction h with
  | nil => rw [tokens]; rfl
  | space hc _ ih => rw [← tokens_dropWhile, List.dropWhile_cons_of_pos hc, tokens_dropWhile, ih]
  | @token t w rest ts ht hend _ ih =>
    have hcut := cutToken_lexeme ht hend
    obtain ⟨c, cs, rfl, hc⟩ := ht.exists_cons
    have hdrop : (c :: cs ++ rest).dropWhile isSpace = c :: cs ++ rest :=
      List.dropWhile_cons_of_neg (by simp [isSpace_of_beginsToken hc])
    rw [tokens, hdrop, if_neg (by simp)]
    split
    · next h => rw [hcut] at h; cases h; rw [ih]
    · next h => rw [hcut] at h; cases h

/-- A number is followed by no character that could continue it, or there would be a fault. -/
theorem Lexed.apart {cs : List Char} {ts : List Token} (h : Lexed cs ts) (hdigit : NoDigit cs) :
    Apart cs := by
  intro c hc
  obtain ⟨rest, rfl⟩ := List.head?_eq_some_iff.1 hc
  have hne : ∀ d, isSpace d = false → beginsToken d = false → c ≠ d := by
    rintro d hspace htoken rfl
    rcases h.head with h | h
    · rw [h] at hspace; cases hspace
    · rw [h] at htoken; cases htoken
  exact ⟨hdigit c rfl, hne _ rfl rfl, hne _ rfl rfl, hne _ rfl rfl⟩

theorem lexed_of_tokens {cs : List Char} (h : .fault ∉ tokens cs) : Lexed cs (tokens cs) := by
  fun_induction tokens cs with
  | case1 cs hdrop => exact .of_dropWhile (hdrop ▸ .nil)
  | case2 cs hne t rest hcut ih =>
    rw [List.mem_cons, not_or] at h
    have hrest := ih h.2
    obtain ⟨w, hw, ht, hdigit⟩ := lexeme_of_cutToken hcut
    refine .of_dropWhile ?_
    rw [hw]
    -- A number is cut off as far as its digits go, and no other token begins as it could go on.
    exact .token ht (fun n hn => hrest.apart (hdigit n hn)) hrest
  | case3 => exact absurd List.mem_cons_self h

theorem Lexed.fault_notMem {cs : List Char} {ts : List Token} (h : Lexed cs ts) : .fault ∉ ts := by
  induction h with
  | nil => exact List.not_mem_nil
  | space _ _ ih => exact ih
  | token ht _ _ ih =>
    rw [List.mem_cons, not_or]
    refine ⟨?_, ih⟩
    rintro rfl
    cases ht with
    | fixed h => cases h

theorem Lexed.literal {cs raw : List Char} {ts : List Token} (h : Lexed cs ts)
    (hraw : .string raw ∈ ts) : Literal raw := by
  induction h with
  | nil => cases hraw
  | space _ _ ih => exact ih hraw
  | token ht _ _ ih =>
    rcases List.mem_cons.1 hraw with rfl | hraw
    · cases ht with
      | fixed h => cases h
      | string h => exact h
    · exact ih hraw

theorem lexed_iff {cs : List Char} {ts : List Token} :
    Lexed cs ts ↔ tokens cs = ts ∧ .fault ∉ ts := by
  constructor
  · intro h
    exact ⟨tokens_of_lexed h, h.fault_notMem⟩
  · rintro ⟨rfl, h⟩
    exact lexed_of_tokens h

end HealthWatch.Json
