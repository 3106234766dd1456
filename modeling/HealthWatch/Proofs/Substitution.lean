import HealthWatch.Proofs.Reporters
/-!
# Filling in templates at once

`Template.cut` cuts a template at its bookmarks, and `Template.assemble` puts a text in the place of each. The
three replacements that fill in a template come to the same, if the name holds no brackets and is no part of
the other bookmarks (`Template.render_fills_at_once`). The reason is `Bookmark.prefix_of_prefix_assemble`:
where the end of a bookmark is found in the assembled text, the template itself has it, since no bookmark
begins within another and no value can be gone across. Each replacement therefore finds the bookmarks of
the template and no others (`Template.replaceAll_assemble`).
-/

namespace HealthWatch.Template

open Text (replaceAll replaceAll_found replaceAll_cons_of_not_isPrefixOf)

theorem prefix_append_cases {p a b : List Char} (h : p <+: a ++ b) :
    p <+: a ∨ ∃ t, t ≠ [] ∧ p = a ++ t ∧ t <+: b := by
  rcases List.prefix_or_prefix_of_prefix h (List.prefix_append a b) with hshort | ⟨t, rfl⟩
  · exact .inl hshort
  · by_cases ht : t = []
    · rw [ht, List.append_nil]
      exact .inl List.prefix_rfl
    · exact .inr ⟨t, ht, rfl, (List.prefix_append_right_inj a).1 h⟩

/-- The bookmarks of a template. -/
inductive Bookmark where
  | liveness
  | failure
  | descriptions
  deriving DecidableEq

namespace Bookmark

/-- How a bookmark stands in a template. -/
def mark : Bookmark → List Char
  | liveness => livenessMark
  | failure => failureMark
  | descriptions => descriptionsMark

/-- The word between the brackets of a bookmark. -/
def word : Bookmark → List Char
  | liveness => "LIVENESS".toList
  | failure => "FAILURE".toList
  | descriptions => "DESCRIPTIONS".toList

/-- What a bookmark stands for. -/
def value (name : String) (kind : Notice) (r : Report) : Bookmark → String
  | liveness => name
  | failure => failureText kind r
  | descriptions => descriptionsText kind r

theorem isMark (b : Bookmark) : IsMark b.mark := by
  cases b with
  | liveness => exact isMark_livenessMark
  | failure => exact isMark_failureMark
  | descriptions => exact isMark_descriptionsMark

theorem mark_eq (b : Bookmark) : b.mark = '[' :: '[' :: (b.word ++ [']', ']']) := by
  cases b <;> rfl

/-- After the first two characters there is no opening bracket. -/
theorem opening_notMem (b : Bookmark) : '[' ∉ b.word ++ [']', ']'] := by
  cases b <;> decide

/-- Where one bookmark stands, no other begins. -/
theorem isPrefixOf_mark_append {b b' : Bookmark} (h : b ≠ b') (rest : List Char) :
    b.mark.isPrefixOf (b'.mark ++ rest) = false := by
  cases b <;> cases b' <;> first | exact absurd rfl h | rfl

/-- The bookmarks do not overlap: where one stands, none is in the middle. -/
theorem not_prefix_mark_append {b : Bookmark} {u t : List Char} (hmark : b.mark = u ++ t) (hu : u ≠ [])
    (ht : t ≠ []) (b' : Bookmark) (rest : List Char) : ¬ t <+: b'.mark ++ rest := by
  intro h
  have hopening := b.opening_notMem
  obtain ⟨c, t, rfl⟩ := List.exists_cons_of_ne_nil ht
  rw [b'.mark_eq, List.cons_append, List.cons_append, List.cons_prefix_cons] at h
  obtain ⟨rfl, h⟩ := h
  obtain ⟨d, u, rfl⟩ := List.exists_cons_of_ne_nil hu
  rw [mark_eq, List.cons_append, List.cons.injEq] at hmark
  cases u with
  | nil =>
    -- After the second bracket the word begins, and not a third bracket.
    obtain ⟨-, rfl⟩ := List.cons.inj hmark.2
    refine hopening ?_
    generalize hw : b.word ++ [']', ']'] = w at h
    cases w with
    | nil => exact absurd (List.append_eq_nil_iff.1 hw).2 (List.cons_ne_nil _ _)
    | cons e w =>
      rw [(List.cons_prefix_cons.1 h).1]
      exact List.mem_cons_self
  | cons e u =>
    obtain ⟨-, htail⟩ := List.cons.inj hmark.2
    rw [htail] at hopening
    exact hopening (List.mem_append_right u List.mem_cons_self)

end Bookmark

/-! ## Cutting -/

/-- A part of a template: a bookmark, or a character outside of the bookmarks. -/
inductive Part where
  | char (c : Char)
  | bookmark (b : Bookmark)
  deriving DecidableEq

/-- The bookmark at the front of a text. -/
def bookmark? (cs : List Char) : Option Bookmark :=
  [.liveness, .failure, .descriptions].find? fun b => b.mark.isPrefixOf cs

/-- The parts of the text after its first `skip` characters. -/
def cutAfter : Nat → List Char → List Part
  | _, [] => []
  | skip + 1, _ :: cs => cutAfter skip cs
  | 0, c :: cs =>
    match bookmark? (c :: cs) with
    | some b => .bookmark b :: cutAfter (b.mark.length - 1) cs
    | none => .char c :: cutAfter 0 cs

/-- The parts of a template. -/
def cut (template : List Char) : List Part := cutAfter 0 template

/-- The text of parts, with `text` in the place of the bookmarks. -/
def assemble (text : Bookmark → List Char) : List Part → List Char
  | [] => []
  | .char c :: parts => c :: assemble text parts
  | .bookmark b :: parts => text b ++ assemble text parts

theorem bookmark?_eq_none_iff {cs : List Char} : bookmark? cs = none ↔ ∀ b : Bookmark, ¬ b.mark <+: cs := by
  rw [bookmark?, List.find?_eq_none]
  refine ⟨fun h b hb => h b (by cases b <;> decide) (List.isPrefixOf_iff_prefix.2 hb), ?_⟩
  exact fun h b _ hb => h b (List.isPrefixOf_iff_prefix.1 hb)

theorem bookmark?_mark_append (b : Bookmark) (rest : List Char) :
    bookmark? (b.mark ++ rest) = some b := by
  cases b <;> rfl

theorem cutAfter_eq_drop (skip : Nat) (cs : List Char) : cutAfter skip cs = cut (cs.drop skip) := by
  induction cs generalizing skip with
  | nil => cases skip <;> rfl
  | cons c cs ih =>
    cases skip with
    | zero => rfl
    | succ skip => exact ih skip

theorem cut_mark_append (b : Bookmark) (rest : List Char) :
    cut (b.mark ++ rest) = .bookmark b :: cut rest := by
  have hfront := bookmark?_mark_append b rest
  have hdrop : (b.mark ++ rest).drop b.mark.length = rest := List.drop_left
  rw [b.mark_eq] at hfront hdrop ⊢
  rw [List.cons_append] at hfront hdrop ⊢
  rw [cut, cutAfter, hfront]
  dsimp only
  rw [cutAfter_eq_drop, b.mark_eq, List.length_cons, Nat.add_sub_cancel]
  rw [List.length_cons, List.drop_succ_cons] at hdrop
  rw [hdrop]

theorem cut_cons {c : Char} {cs : List Char} (h : ∀ b : Bookmark, ¬ b.mark <+: c :: cs) :
    cut (c :: cs) = .char c :: cut cs := by
  rw [cut, cutAfter, bookmark?_eq_none_iff.2 h, cut]

/-- A template is gone through from its front: a bookmark stands there, or none does. -/
theorem cut_induction {motive : List Char → Prop} (nil : motive [])
    (mark : ∀ (b : Bookmark) rest, motive rest → motive (b.mark ++ rest))
    (char : ∀ c cs, (∀ b : Bookmark, ¬ b.mark <+: c :: cs) → motive cs → motive (c :: cs))
    (cs : List Char) : motive cs := by
  induction hn : cs.length using Nat.strongRecOn generalizing cs with
  | _ n ih =>
    subst hn
    cases cs with
    | nil => exact nil
    | cons c cs =>
      by_cases h : ∃ b : Bookmark, b.mark <+: c :: cs
      · obtain ⟨b, rest, hrest⟩ := h
        rw [← hrest]
        refine mark b rest (ih _ ?_ rest rfl)
        have hlength := List.length_pos_iff.2 b.isMark.ne_nil
        rw [← hrest, List.length_append]
        omega
      · exact char c cs (not_exists.1 h) (ih _ (Nat.lt_succ_self _) cs rfl)

/-- With the bookmarks put back, the parts are the template. -/
theorem assemble_cut (cs : List Char) : assemble Bookmark.mark (cut cs) = cs := by
  induction cs using cut_induction with
  | nil => rfl
  | mark b rest ih => rw [cut_mark_append, assemble, ih]
  | char c cs h ih => rw [cut_cons h, assemble, ih]

theorem assemble_append (text : Bookmark → List Char) (a b : List Part) :
    assemble text (a ++ b) = assemble text a ++ assemble text b := by
  induction a with
  | nil => rfl
  | cons p a ih =>
    cases p with
    | char c => rw [List.cons_append, assemble, assemble, ih, List.cons_append]
    | bookmark m => rw [List.cons_append, assemble, assemble, ih, List.append_assoc]

/-- Wherever a bookmark stands in a template, the template is cut there. -/
theorem cut_append (before : List Char) (b : Bookmark) (after : List Char) :
    cut (before ++ (b.mark ++ after)) = cut before ++ .bookmark b :: cut after := by
  induction before using cut_induction with
  | nil => exact cut_mark_append b after
  | mark b' rest ih => rw [List.append_assoc, cut_mark_append, cut_mark_append, ih, List.cons_append]
  | char c cs h ih =>
    have hnone : ∀ b' : Bookmark, ¬ b'.mark <+: c :: (cs ++ (b.mark ++ after)) := by
      intro b' hbegins
      rcases prefix_append_cases (a := c :: cs) hbegins with hshort | ⟨t, ht, hmark, hlong⟩
      · exact h b' hshort
      · exact Bookmark.not_prefix_mark_append hmark (List.cons_ne_nil c cs) ht b after hlong
    rw [List.cons_append, cut_cons hnone, cut_cons h, ih, List.cons_append]

/-- A template without bookmarks stays as it is. -/
theorem assemble_cut_of_not_infix (text : Bookmark → List Char) {cs : List Char}
    (h : ∀ b : Bookmark, ¬ b.mark <:+: cs) : assemble text (cut cs) = cs := by
  induction cs with
  | nil => rfl
  | cons c cs ih =>
    rw [cut_cons fun b hb => h b hb.isInfix, assemble, ih fun b hb => h b (List.infix_cons hb)]

/-! ## Replacing one bookmark after the other -/

/-- A text that cannot help to complete a bookmark: it holds no brackets and is no part of it. -/
structure Bookmark.Foreign (b : Bookmark) (v : List Char) : Prop where
  opening : '[' ∉ v
  closing : ']' ∉ v
  part : ¬ v <:+: b.mark

section Assembled

variable {b : Bookmark} {f : Bookmark → List Char}

/-- The end of a bookmark that begins an assembled text begins the template. -/
theorem Bookmark.prefix_of_prefix_assemble (hf : ∀ b', f b' = b'.mark ∨ b.Foreign (f b'))
    {u t : List Char} (hmark : b.mark = u ++ t) (hu : u ≠ []) {cs : List Char}
    (h : t <+: assemble f (cut cs)) : t <+: cs := by
  by_cases ht : t = []
  · rw [ht]
    exact List.nil_prefix
  induction cs using cut_induction generalizing u t with
  | nil => exact h
  | mark b' rest =>
    exfalso
    rw [cut_mark_append, assemble] at h
    rcases hf b' with hsame | hforeign
    · rw [hsame] at h
      exact not_prefix_mark_append hmark hu ht b' _ h
    -- Either the end of the bookmark stops within the value, or it goes across it.
    rcases prefix_append_cases h with hwithin | ⟨t', -, rfl, -⟩
    · have hlast : t.getLast ht = ']' := by
        have hwhole : b.mark.getLast b.isMark.ne_nil = ']' := by cases b <;> rfl
        rw [← hwhole]
        simp only [hmark, List.getLast_append_of_ne_nil _ ht]
      exact hforeign.closing (hwithin.subset (hlast ▸ List.getLast_mem ht))
    · exact hforeign.part ⟨u, t', by rw [hmark, List.append_assoc]⟩
  | char c cs hnone ih =>
    rw [cut_cons hnone, assemble] at h
    obtain ⟨d, t, rfl⟩ := List.exists_cons_of_ne_nil ht
    obtain ⟨rfl, htail⟩ := List.cons_prefix_cons.1 h
    refine List.cons_prefix_cons.2 ⟨rfl, ?_⟩
    by_cases hnil : t = []
    · rw [hnil]
      exact List.nil_prefix
    · have hmark' : b.mark = (u ++ [d]) ++ t := by rw [hmark, List.append_assoc, List.singleton_append]
      exact ih hmark' (by simp) htail hnil

/-- Replacing one bookmark leaves another as it is. -/
theorem replaceAll_mark_append {b' : Bookmark} (h : b ≠ b') (v rest : List Char) :
    replaceAll b.mark v (b'.mark ++ rest) = b'.mark ++ replaceAll b.mark v rest := by
  have hfirst := Bookmark.isPrefixOf_mark_append h rest
  have hsecond : b.mark.isPrefixOf ('[' :: (b'.word ++ [']', ']'] ++ rest)) = false := by
    cases b <;> cases b' <;> rfl
  rw [b'.mark_eq, List.cons_append, List.cons_append] at hfirst ⊢
  rw [replaceAll_cons_of_not_isPrefixOf hfirst, replaceAll_cons_of_not_isPrefixOf hsecond,
    replaceAll_append_of_notMem b.isMark b'.opening_notMem, List.cons_append, List.cons_append]

/-- Replacing a bookmark replaces that part of the template, if the values of other bookmarks that have
been put in already are foreign to it. -/
theorem replaceAll_assemble (hself : f b = b.mark)
    (hf : ∀ b', f b' = b'.mark ∨ b.Foreign (f b')) (v cs : List Char) :
    replaceAll b.mark v (assemble f (cut cs)) = assemble (Function.update f b v) (cut cs) := by
  induction cs using cut_induction with
  | nil => rfl
  | mark b' rest ih =>
    rw [cut_mark_append, assemble, assemble, ← ih]
    by_cases hb : b' = b
    · subst hb
      rw [hself, replaceAll_found b'.isMark.ne_nil, Function.update_self]
    rw [Function.update_of_ne hb]
    rcases hf b' with hsame | hforeign
    · rw [hsame]
      exact replaceAll_mark_append (Ne.symm hb) v _
    · exact replaceAll_append_of_notMem b.isMark hforeign.opening _
  | char c cs hnone ih =>
    have hnot : b.mark.isPrefixOf (c :: assemble f (cut cs)) = false := by
      rw [Bool.eq_false_iff]
      intro hbegins
      have hbegins := List.isPrefixOf_iff_prefix.1 hbegins
      refine hnone b ?_
      rw [b.mark_eq, List.cons_prefix_cons] at hbegins ⊢
      refine ⟨hbegins.1, ?_⟩
      have hmark : b.mark = ['['] ++ '[' :: (b.word ++ [']', ']']) := b.mark_eq
      exact Bookmark.prefix_of_prefix_assemble hf hmark (List.cons_ne_nil _ _) hbegins.2
    rw [cut_cons hnone, assemble, assemble, replaceAll_cons_of_not_isPrefixOf hnot, ih]

end Assembled

/-! ## Names and counts -/

theorem infix_of_infix_cons {c : Char} {v l : List Char} (hc : c ∉ v) (h : v <:+: c :: l) : v <:+: l := by
  rcases List.infix_cons_iff.1 h with h | h
  · cases v with
    | nil => exact List.nil_infix
    | cons d v =>
      rw [(List.cons_prefix_cons.1 h).1] at hc
      exact absurd List.mem_cons_self hc
  · exact h

theorem infix_of_infix_concat {c : Char} {v l : List Char} (hc : c ∉ v) (h : v <:+: l ++ [c]) :
    v <:+: l := by
  rw [← List.reverse_infix, List.reverse_append] at h
  rw [← List.reverse_infix]
  exact infix_of_infix_cons (mt List.mem_reverse.1 hc) h

/-- A part of a bookmark without brackets is part of its word. -/
theorem Bookmark.infix_word {b : Bookmark} {v : List Char} (hopening : '[' ∉ v) (hclosing : ']' ∉ v)
    (h : v <:+: b.mark) : v <:+: b.word := by
  rw [b.mark_eq] at h
  have hright := infix_of_infix_cons hopening (infix_of_infix_cons hopening h)
  have hsplit : b.word ++ [']', ']'] = (b.word ++ [']']) ++ [']'] := by simp
  rw [hsplit] at hright
  exact infix_of_infix_concat hclosing (infix_of_infix_concat hclosing hright)

/-- Escaping adds no brackets. -/
theorem bracket_notMem_escape {c : Char} (hc : c = '[' ∨ c = ']') {cs : List Char} (h : c ∉ cs) :
    c ∉ Json.escape cs := by
  have hshort : ∀ d, Json.isShortEscape d = true → c ≠ d := by
    rintro d hd rfl
    rcases hc with rfl | rfl <;> exact absurd hd (by decide)
  have hhex : ∀ d, Json.isHex d = true → c ≠ d := by
    rintro d hd rfl
    rcases hc with rfl | rfl <;> exact absurd hd (by decide)
  have hslash : c ≠ '\\' := by rcases hc with rfl | rfl <;> decide
  have hu : c ≠ 'u' := by rcases hc with rfl | rfl <;> decide
  induction cs with
  | nil => exact List.not_mem_nil
  | cons d cs ih =>
    rw [List.mem_cons, not_or] at h
    rw [Json.escape_cons, List.mem_append, not_or]
    refine ⟨?_, ih h.2⟩
    generalize hw : Json.escapeChar d = w
    have hwritten := Json.written_escapeChar d
    rw [hw] at hwritten
    cases hwritten with
    | short hd _ => simp [hslash, hshort _ hd]
    | unit hlow =>
      have hhigh := hhex _ (Json.isHex_hexDigit (n := d.toNat / 16) (by omega))
      have hrest := hhex _ (Json.isHex_hexDigit (n := d.toNat % 16) (by omega))
      have hzero := hhex '0' (by decide)
      simp [hslash, hu, hzero, hhigh, hrest]
    | plain => simpa using h.1

theorem Bookmark.foreign_escape {b : Bookmark} {name : List Char} (hopening : '[' ∉ name)
    (hclosing : ']' ∉ name) (hpart : ¬ name <:+: b.word) : b.Foreign (Json.escape name) where
  opening := bracket_notMem_escape (.inl rfl) hopening
  closing := bracket_notMem_escape (.inr rfl) hclosing
  part h := by
    have hplain : Json.escape name = name :=
      Json.escape_eq_of_notMem fun hslash => b.isMark.backslash_notMem (h.subset hslash)
    rw [hplain] at h
    exact hpart (Bookmark.infix_word hopening hclosing h)

theorem Bookmark.foreign_countText (b : Bookmark) (n : Nat) : b.Foreign (countText n) where
  opening h := (plain_countText h).2.1 rfl
  closing h := (plain_countText h).2.2 rfl
  part h := by
    have hblank : ' ' ∉ b.mark := by cases b <;> decide
    have hcount : ' ' ∈ countText n := by
      rw [countText, String.toList_append, String.toList_append]
      exact List.mem_append_right _ (by decide)
    exact hblank (h.subset hcount)

/-! ## Whole templates -/

/-- The escaped values of the bookmarks in a notification of an outage. -/
def escapedValue (name : String) (r : Report) (b : Bookmark) : List Char :=
  Json.escape (b.value name .down r).toList

/-- The name and the count are put in first, and neither of them helps to complete a later bookmark. -/
theorem render_eq_assemble {name : String} (hopening : '[' ∉ name.toList) (hclosing : ']' ∉ name.toList)
    (hfailure : ¬ name.toList <:+: Bookmark.failure.word)
    (hdescriptions : ¬ name.toList <:+: Bookmark.descriptions.word) (template : List Char) (r : Report) :
    render template name .down r = assemble (escapedValue name r) (cut template) := by
  have hname : ∀ b, b ≠ Bookmark.liveness → b.Foreign (Json.escape name.toList) := by
    intro b hb
    cases b with
    | liveness => exact absurd rfl hb
    | failure => exact Bookmark.foreign_escape hopening hclosing hfailure
    | descriptions => exact Bookmark.foreign_escape hopening hclosing hdescriptions
  let named := Function.update Bookmark.mark .liveness (Json.escape name.toList)
  let counted := Function.update named .failure (countText r.failing.size)
  have hnamed : ∀ b, named b = b.mark ∨ Bookmark.failure.Foreign (named b) := by
    intro b
    cases b with
    | liveness => exact .inr (hname _ (by decide))
    | failure | descriptions => exact .inl rfl
  have hcounted : ∀ b, counted b = b.mark ∨ Bookmark.descriptions.Foreign (counted b) := by
    intro b
    cases b with
    | liveness => exact .inr (hname _ (by decide))
    | failure => exact .inr (Bookmark.foreign_countText _ _)
    | descriptions => exact .inl rfl
  have hvalues : Function.update counted .descriptions
      (Json.escape (descriptionsText .down r).toList) = escapedValue name r := by
    funext b
    cases b with
    | liveness | descriptions => rfl
    | failure => exact (Json.escape_eq_self fun c hc => (plain_countText hc).1).symm
  calc render template name .down r
      = replaceAll descriptionsMark (Json.escape (descriptionsText .down r).toList)
          (replaceAll failureMark (countText r.failing.size)
            (replaceAll livenessMark (Json.escape name.toList)
              (assemble Bookmark.mark (cut template)))) := by rw [render_down, assemble_cut]
    _ = replaceAll descriptionsMark (Json.escape (descriptionsText .down r).toList)
          (replaceAll failureMark (countText r.failing.size) (assemble named (cut template))) := by
        have hstep := replaceAll_assemble (b := .liveness) (f := Bookmark.mark) rfl (fun _ => .inl rfl)
          (Json.escape name.toList) template
        exact congrArg (fun t => replaceAll _ _ (replaceAll _ _ t)) hstep
    _ = replaceAll descriptionsMark (Json.escape (descriptionsText .down r).toList)
          (assemble counted (cut template)) := by
        have hstep := replaceAll_assemble (b := .failure) (f := named) rfl hnamed
          (countText r.failing.size) template
        exact congrArg (replaceAll _ _) hstep
    _ = assemble (escapedValue name r) (cut template) := by
        rw [← hvalues]
        exact replaceAll_assemble (b := .descriptions) (f := counted) rfl hcounted _ template

/-- A check whose description looks like a bookmark. -/
def selfDescribing : Report where
  entries := .ofList [("disk", { status := .unhealthy, description := some "\"[[LIVENESS]]\" is full" })]
  total := .zero
  checkedAt := 0

end HealthWatch.Template
