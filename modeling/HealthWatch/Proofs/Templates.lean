import HealthWatch.Notification.Template
import HealthWatch.Proofs.Json.Grammar
/-!
# Filling in templates

`Template.lexed_replaceAll` says that putting escaped text in the place of a bookmark changes a JSON text
within its string literals only. A bookmark cannot stand anywhere else, since the character after its two
brackets begins no value, and within a literal it cannot cut an escape in two. Three such steps make
`Template.render_keeps_structure`.
-/

namespace HealthWatch

open Json

variable {p v : List Char}

/-! ## Replacing -/

namespace Text

theorem replaceAll_found (hne : p ≠ []) (rest : List Char) :
    replaceAll p v (p ++ rest) = v ++ replaceAll p v rest := by
  rw [replaceAll_of_isPrefixOf hne (List.isPrefixOf_iff_prefix.2 (List.prefix_append p rest)),
    List.drop_left]

/-- A text is gone through from its front: the pattern is found there, or it is not. -/
theorem replaceAll_induction (hne : p ≠ []) {motive : List Char → Prop}
    (found : ∀ rest, motive rest → motive (p ++ rest))
    (passed : ∀ cs, p.isPrefixOf cs = false →
      (∀ rest : List Char, rest.length < cs.length → motive rest) → motive cs)
    (cs : List Char) : motive cs := by
  induction hn : cs.length using Nat.strongRecOn generalizing cs with
  | _ n ih =>
    subst hn
    cases hp : p.isPrefixOf cs with
    | true =>
      obtain ⟨rest, rfl⟩ := List.isPrefixOf_iff_prefix.1 hp
      have hlen := List.length_pos_iff.2 hne
      exact found rest (ih _ (by rw [List.length_append]; omega) rest rfl)
    | false => exact passed cs hp fun rest hlt => ih _ hlt rest rfl

theorem isPrefixOf_append_cons {c : Char} (hc : c ∉ p) (a b : List Char) :
    p.isPrefixOf (a ++ c :: b) = p.isPrefixOf a := by
  induction p generalizing a with
  | nil => rfl
  | cons d p ih =>
    rw [List.mem_cons, not_or] at hc
    cases a with
    | nil => simp [List.isPrefixOf, Ne.symm hc.1]
    | cons e a => simp [List.isPrefixOf, ih hc.2]

/-- Replacing begins anew after a character that is not in the pattern. -/
theorem replaceAll_append_cons (hne : p ≠ []) {c : Char} (hc : c ∉ p) (a b : List Char) :
    replaceAll p v (a ++ c :: b) = replaceAll p v a ++ c :: replaceAll p v b := by
  induction a using replaceAll_induction hne with
  | found a ih =>
    rw [List.append_assoc, replaceAll_found hne, ih, replaceAll_found hne, List.append_assoc]
  | passed a hnot ih =>
    have hnot' : p.isPrefixOf (a ++ c :: b) = false := (isPrefixOf_append_cons hc a b).trans hnot
    cases a with
    | nil => exact replaceAll_cons_of_not_isPrefixOf hnot'
    | cons d a =>
      rw [List.cons_append] at hnot' ⊢
      rw [replaceAll_cons_of_not_isPrefixOf hnot', ih a (Nat.lt_succ_self _),
        replaceAll_cons_of_not_isPrefixOf hnot, List.cons_append]

end Text

namespace Template

open Text (replaceAll replaceAll_found replaceAll_induction replaceAll_cons_of_not_isPrefixOf)

/-- A bookmark: two brackets and a character that begins no token, with nothing to be escaped. -/
structure IsMark (p : List Char) : Prop where
  opening : ∃ c ps, p = '[' :: '[' :: c :: ps ∧ isSpace c = false ∧ beginsToken c = false
  plain : ∀ c ∈ p, escapeChar c = [c]

theorem plain_of_all (h : p.all (fun c => escapeChar c = [c]) = true) :
    ∀ c ∈ p, escapeChar c = [c] := by
  intro c hc
  exact of_decide_eq_true (List.all_eq_true.1 h c hc)

theorem isMark_livenessMark : IsMark livenessMark :=
  ⟨⟨'L', _, rfl, by decide, by decide⟩, plain_of_all (by decide)⟩

theorem isMark_failureMark : IsMark failureMark :=
  ⟨⟨'F', _, rfl, by decide, by decide⟩, plain_of_all (by decide)⟩

theorem isMark_descriptionsMark : IsMark descriptionsMark :=
  ⟨⟨'D', _, rfl, by decide, by decide⟩, plain_of_all (by decide)⟩

namespace IsMark

theorem ne_nil (hp : IsMark p) : p ≠ [] := by
  obtain ⟨c, ps, rfl, -⟩ := hp.opening
  exact List.cons_ne_nil _ _

theorem quote_notMem (hp : IsMark p) : '"' ∉ p := fun h => absurd (hp.plain _ h) (by decide)

theorem backslash_notMem (hp : IsMark p) : '\\' ∉ p := fun h => absurd (hp.plain _ h) (by decide)

theorem not_isPrefixOf (hp : IsMark p) {c : Char} {cs : List Char} (hc : c ≠ '[') :
    p.isPrefixOf (c :: cs) = false := by
  obtain ⟨d, ps, rfl, -⟩ := hp.opening
  simp [List.isPrefixOf, hc.symm]

end IsMark

theorem replaceAll_append_of_notMem (hp : IsMark p) {a : List Char} (ha : '[' ∉ a)
    (b : List Char) : replaceAll p v (a ++ b) = a ++ replaceAll p v b := by
  induction a with
  | nil => rfl
  | cons c a ih =>
    rw [List.mem_cons, not_or] at ha
    have hnot : p.isPrefixOf (c :: (a ++ b)) = false := hp.not_isPrefixOf (Ne.symm ha.1)
    rw [List.cons_append, replaceAll_cons_of_not_isPrefixOf hnot, ih ha.2, List.cons_append]

/-! ## Within a string literal -/

theorem bracket_of_piece {piece : List Char} (h : Piece piece) : piece = ['['] ∨ '[' ∉ piece := by
  have hhex : ∀ {c : Char}, isHex c = true → '[' ≠ c := by
    rintro _ hx rfl
    exact absurd hx (by decide)
  cases h with
  | @plain c _ _ _ =>
    by_cases hc : '[' = c
    · exact .inl (hc ▸ rfl)
    · exact .inr (by simpa using hc)
  | @short c h =>
    have hc : '[' ≠ c := by
      rintro rfl
      exact absurd h (by decide)
    exact .inr (by simpa using hc)
  | unit hx1 hx2 hx3 hx4 => exact .inr (by simp [hhex hx1, hhex hx2, hhex hx3, hhex hx4])

/-- A piece at which no bookmark begins stays as it is. -/
theorem replaceAll_piece (hp : IsMark p) {piece rest : List Char} (h : Piece piece)
    (hnot : p.isPrefixOf (piece ++ rest) = false) :
    replaceAll p v (piece ++ rest) = piece ++ replaceAll p v rest := by
  rcases bracket_of_piece h with rfl | h
  · exact replaceAll_cons_of_not_isPrefixOf hnot
  · exact replaceAll_append_of_notMem hp h rest

theorem literal_replaceAll (hp : IsMark p) (hv : Literal v) {raw : List Char} (h : Literal raw) :
    Literal (replaceAll p v raw) := by
  induction raw using replaceAll_induction hp.ne_nil with
  | found rest ih =>
    rw [replaceAll_found hp.ne_nil]
    exact hv.append (ih (h.of_append hp.backslash_notMem))
  | passed raw hnot ih =>
    cases h with
    | nil => exact .nil
    | @cons piece rest hpiece hrest =>
      have hlen := List.length_pos_iff.2 hpiece.ne_nil
      -- No bookmark begins within an escape, so the whole piece is passed over.
      rw [replaceAll_piece hp hpiece hnot]
      exact .cons hpiece (ih rest (by rw [List.length_append]; omega) hrest)

/-- A bookmark begins an escaped text exactly when it begins the text. -/
theorem isPrefixOf_escape (hp : ∀ c ∈ p, escapeChar c = [c]) (t : List Char) :
    p.isPrefixOf (escape t) = p.isPrefixOf t := by
  induction p generalizing t with
  | nil => rfl
  | cons c p ih =>
    have hc := hp c List.mem_cons_self
    cases t with
    | nil => rfl
    | cons d t =>
      rw [escape_cons]
      by_cases hd : c = d
      · subst hd
        rw [hc, List.singleton_append]
        simp [List.isPrefixOf, ih (fun e he => hp e (List.mem_cons_of_mem _ he))]
      · have hslash : c ≠ '\\' := by
          rintro rfl
          exact absurd hc (by decide)
        -- However another character is written, it does not begin as `c` does.
        have hfirst : ∀ w, Written d w → (c :: p).isPrefixOf (w ++ escape t) = false := by
          intro w hw
          cases hw with
          | short => simp [List.isPrefixOf, hslash]
          | unit => simp [List.isPrefixOf, hslash]
          | plain => simp [List.isPrefixOf, hd]
        rw [hfirst _ (written_escapeChar d)]
        simp [List.isPrefixOf, hd]

/-- Putting an escaped text into an escaped text is putting the text in, then escaping. -/
theorem replaceAll_escape (hp : IsMark p) (t : List Char) :
    replaceAll p (escape v) (escape t) = escape (replaceAll p v t) := by
  induction t using replaceAll_induction hp.ne_nil with
  | found rest ih =>
    rw [escape_append, escape_eq_self hp.plain, replaceAll_found hp.ne_nil,
      replaceAll_found hp.ne_nil, ih, escape_append]
  | passed t hnot ih =>
    have hnot' : p.isPrefixOf (escape t) = false := (isPrefixOf_escape hp.plain t).trans hnot
    cases t with
    | nil => rfl
    | cons c t =>
      rw [escape_cons] at hnot' ⊢
      rw [replaceAll_piece hp (written_escapeChar c).piece hnot', ih t (Nat.lt_succ_self _),
        replaceAll_cons_of_not_isPrefixOf hnot, escape_cons]

/-! ## Within a JSON text -/

theorem bracket_notMem_of_number {n : NumberText} {w : List Char} (h : NumberLexeme n w) :
    '[' ∉ w := by
  have hdigits : ∀ {ds : List Char}, IsDigits ds → '[' ∉ ds := fun h hmem =>
    absurd (h.2 _ hmem) (by decide)
  obtain @⟨negative, whole, fraction, exponent, e, hwhole, hfraction, hexponent⟩ := h
  have hsign : ∀ b, '[' ∉ signText b := by decide
  have hpoint : '[' ∉ fractionText fraction := by
    cases fraction with
    | none => exact List.not_mem_nil
    | some ds => simpa [fractionText] using hdigits (hfraction ds rfl)
  have he : '[' ∉ e := by
    cases hexponent with
    | none => exact List.not_mem_nil
    | some he hs hds =>
      have hs' : '[' ∉ _ := hs.elim (fun h => h ▸ hsign _) fun h => h.2 ▸ by decide
      rcases he with rfl | rfl <;> simp [hs', hdigits hds]
  simp [hsign, hdigits hwhole.1, hpoint, he]

/-- No bookmark begins with the bracket of an array. -/
theorem not_isPrefixOf_openArray (hp : IsMark p) {rest : List Char} {ts : List Token}
    (h : Lexed rest ts) : p.isPrefixOf ('[' :: rest) = false := by
  obtain ⟨c, ps, rfl, hspace, htoken⟩ := hp.opening
  rw [Bool.eq_false_iff]
  intro hprefix
  obtain ⟨tail, htail⟩ := List.isPrefixOf_iff_prefix.1 hprefix
  obtain rfl := (List.cons.inj htail).2
  obtain ⟨_, h⟩ := h.of_openArray
  rcases h.head with h | h
  · rw [hspace] at h; cases h
  · rw [htoken] at h; cases h

theorem replaceAll_lexeme (hp : IsMark p) (hv : Literal v) {t : Token} {w rest : List Char}
    {ts : List Token} (ht : Lexeme t w) (hrest : Lexed rest ts) :
    ∃ w', replaceAll p v (w ++ rest) = w' ++ replaceAll p v rest ∧
      Lexeme (t.mapString (replaceAll p v)) w' ∧ w'.head? = w.head? := by
  cases ht with
  | @fixed t w h =>
    have hsame : t.mapString (replaceAll p v) = t := by
      cases t <;> first | rfl | cases h
    refine ⟨w, ?_, hsame.symm ▸ .fixed h, rfl⟩
    by_cases hopen : t = .openArray
    · -- Of all tokens only this one begins as a bookmark does.
      subst hopen
      cases h
      exact replaceAll_cons_of_not_isPrefixOf (not_isPrefixOf_openArray hp hrest)
    · refine replaceAll_append_of_notMem hp ?_ rest
      unfold Token.fixedText at h
      split at h <;> cases h <;> first | exact absurd rfl hopen | decide
  | number h =>
    exact ⟨_, replaceAll_append_of_notMem hp (bracket_notMem_of_number h) rest, .number h, rfl⟩
  | @string raw h =>
    refine ⟨'"' :: (replaceAll p v raw ++ ['"']), ?_, .string (literal_replaceAll hp hv h), rfl⟩
    have hquote : '"' ≠ '[' := by decide
    rw [List.cons_append, List.append_assoc, List.singleton_append,
      replaceAll_cons_of_not_isPrefixOf (hp.not_isPrefixOf hquote),
      Text.replaceAll_append_cons hp.ne_nil hp.quote_notMem, List.cons_append, List.append_assoc,
      List.singleton_append]

/-- Escaped text in the place of a bookmark changes the contents of string literals only. -/
theorem lexed_replaceAll (hp : IsMark p) (hv : Literal v) {cs : List Char} {ts : List Token}
    (h : Lexed cs ts) :
    Lexed (replaceAll p v cs) (ts.map (·.mapString (replaceAll p v))) ∧
      (replaceAll p v cs).head? = cs.head? := by
  induction h with
  | nil => exact ⟨.nil, rfl⟩
  | @space c cs ts hc _ ih =>
    have hne : c ≠ '[' := by
      rintro rfl
      exact absurd hc (by decide)
    rw [replaceAll_cons_of_not_isPrefixOf (hp.not_isPrefixOf hne)]
    exact ⟨.space hc ih.1, rfl⟩
  | @token t w rest ts ht hend hrest ih =>
    obtain ⟨w', heq, ht', hhead⟩ := replaceAll_lexeme hp hv ht hrest
    rw [heq]
    refine ⟨.token ht' ?_ ih.1, ?_⟩
    · -- What follows a number begins as before, so the number does not go on.
      intro n hn
      cases t <;> cases hn
      unfold Apart
      rw [ih.2]
      exact hend n rfl
    · obtain ⟨c, w, rfl, -⟩ := ht.exists_cons
      obtain ⟨c', w', rfl, -⟩ := ht'.exists_cons
      exact hhead

/-! ## Templates -/

/-- The text with the values of the bookmarks put in as they are. -/
def fill (text : List Char) (name : String) (kind : Notice) (r : Report) : List Char :=
  replaceAll descriptionsMark (descriptionsText kind r).toList
    (replaceAll failureMark (failureText kind r).toList
      (replaceAll livenessMark name.toList text))

theorem render_escape (text : List Char) (name : String) (kind : Notice) (r : Report) :
    render (escape text) name kind r = escape (fill text name kind r) := by
  unfold render fill
  dsimp only
  rw [replaceAll_escape isMark_livenessMark, replaceAll_escape isMark_failureMark,
    replaceAll_escape isMark_descriptionsMark]

theorem lexed_render {template : List Char} {ts : List Token} (h : Lexed template ts)
    (name : String) (kind : Notice) (r : Report) :
    Lexed (render template name kind r) (ts.map (·.mapString (render · name kind r))) := by
  have hnamed := (lexed_replaceAll isMark_livenessMark (literal_escape name.toList) h).1
  have hcounted := (lexed_replaceAll isMark_failureMark
    (literal_escape (failureText kind r).toList) hnamed).1
  have hdescribed := (lexed_replaceAll isMark_descriptionsMark
    (literal_escape (descriptionsText kind r).toList) hcounted).1
  simp only [List.map_map, Function.comp_def, Token.mapString_mapString] at hdescribed
  exact hdescribed

/-- A template of a chat. -/
def chatTemplate : List Char := "\x7b\"text\": \"[[LIVENESS]]: [[DESCRIPTIONS]]\"\x7d".toList

/-- A check that fails with quotes in its description. -/
def fullDisk : Report where
  entries := .ofList [("disk", { status := .unhealthy, description := some "\"/\" is full" })]
  total := .zero
  checkedAt := 0

end Template

end HealthWatch
