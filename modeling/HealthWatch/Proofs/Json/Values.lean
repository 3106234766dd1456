import HealthWatch.Json.Decode
import HealthWatch.Json.Text
import HealthWatch.Proofs.Json.Grammar
/-!
# Values as they are written and read

`lexed_print` gives the lexemes of the text of a value and `value?_outline` reads the value back from
them, at any depth that there is room for. Both ask that the numbers within the value be integers.
-/

namespace HealthWatch

namespace Json

mutual

/-- Whether all numbers within the value are integers. -/
def isIntegral : Json → Bool
  | number (.real _) => false
  | array items => areIntegral items
  | object members => membersAreIntegral members
  | _ => true

/-- Whether all numbers within the items are integers. -/
def areIntegral : List Json → Bool
  | [] => true
  | j :: js => isIntegral j && areIntegral js

/-- Whether all numbers within the members are integers. -/
def membersAreIntegral : List (String × Json) → Bool
  | [] => true
  | (_, j) :: ms => isIntegral j && membersAreIntegral ms

end

mutual

/-- How deep containers are nested within the value, itself included. -/
def depth : Json → Nat
  | array items => itemDepth items + 1
  | object members => memberDepth members + 1
  | _ => 0

/-- How deep containers are nested within the items. -/
def itemDepth : List Json → Nat
  | [] => 0
  | j :: js => max (depth j) (itemDepth js)

/-- How deep containers are nested within the members. -/
def memberDepth : List (String × Json) → Nat
  | [] => 0
  | (_, j) :: ms => max (depth j) (memberDepth ms)

end

theorem membersAreIntegral_iff {ms : List (String × Json)} :
    membersAreIntegral ms = true ↔ ∀ m ∈ ms, m.2.isIntegral = true := by
  induction ms with
  | nil => simp [membersAreIntegral]
  | cons m ms ih => simp [membersAreIntegral, ih]

theorem areIntegral_iff {js : List Json} :
    areIntegral js = true ↔ ∀ j ∈ js, j.isIntegral = true := by
  induction js with
  | nil => simp [areIntegral]
  | cons j js ih => simp [areIntegral, ih]

theorem depth_le_memberDepth {ms : List (String × Json)} {m : String × Json} (hm : m ∈ ms) :
    m.2.depth ≤ memberDepth ms := by
  induction ms with
  | nil => cases hm
  | cons n ms ih =>
    rw [memberDepth]
    rcases List.mem_cons.1 hm with rfl | hm
    · exact Nat.le_max_left _ _
    · exact Nat.le_trans (ih hm) (Nat.le_max_right _ _)

theorem depth_lt_of_mem {ms : List (String × Json)} {m : String × Json} (hm : m ∈ ms) :
    m.2.depth < (object ms).depth := Nat.lt_succ_of_le (depth_le_memberDepth hm)

/-! ## Numbers -/

/-- An integer as it is written. -/
def intNumber (i : Int) : NumberText := ⟨i < 0, Numeral.decimal i.natAbs, none, none⟩

theorem isWhole_decimal (n : Nat) : IsWhole (Numeral.decimal n) :=
  ⟨⟨Numeral.decimal_ne_nil n, fun _ => Numeral.isDigit_of_mem_decimal⟩, Numeral.decimal_of_head⟩

theorem numberLexeme_intText (i : Int) : NumberLexeme (intNumber i) (Numeral.intText i).toList := by
  have hlexeme : ∀ negative n, NumberLexeme ⟨negative, Numeral.decimal n, none, none⟩
      (signText negative ++ (Numeral.decimal n ++ (fractionText none ++ []))) := by
    intro negative n
    refine .mk (isWhole_decimal n) ?_ .none
    intro ds hds
    cases hds
  cases i with
  | ofNat n =>
    have hsign : decide (Int.ofNat n < 0) = false := decide_eq_false (by simp)
    rw [intNumber, hsign, Numeral.intText, Numeral.text, String.toList_ofList]
    simpa [signText, fractionText] using hlexeme false n
  | negSucc n =>
    have hsign : decide (Int.negSucc n < 0) = true := decide_eq_true (Int.negSucc_lt_zero n)
    rw [intNumber, hsign, Numeral.intText, Numeral.text, String.toList_append,
      String.toList_ofList]
    simpa [signText, fractionText] using hlexeme true (n + 1)

theorem takeDigits_eq {ds : List Char} {v : Nat}
    (h : ds.foldl (fun v c => 10 * v + Numeral.digitValue c) v ≤ Numeral.greatest64) :
    takeDigits v ds = (ds.foldl (fun v c => 10 * v + Numeral.digitValue c) v, 0) := by
  induction ds generalizing v with
  | nil => rfl
  | cons d ds ih =>
    rw [List.foldl_cons] at h ⊢
    have hnext := Nat.le_trans (Numeral.le_foldl_digits ds _) h
    rw [takeDigits, if_pos hnext, ih h]

theorem numberValue?_intNumber (i : Integer) :
    numberValue? (intNumber i.val) = some (.integer i) := by
  obtain ⟨hlow, hhigh⟩ := i.inRange
  have hfits : Numeral.value (Numeral.decimal i.val.natAbs) ≤ Numeral.greatest64 := by
    rw [Numeral.value_decimal]
    unfold Numeral.greatest64
    omega
  have hdigits : takeDigits 0 (Numeral.decimal i.val.natAbs) = (i.val.natAbs, 0) := by
    rw [takeDigits_eq hfits]
    exact congrArg (·, 0) (Numeral.value_decimal _)
  have hval : (if decide (i.val < 0) = true then -(i.val.natAbs : Int) else i.val.natAbs) = i.val := by
    by_cases hneg : i.val < 0
    · rw [if_pos (decide_eq_true hneg)]
      omega
    · rw [if_neg (by simpa using hneg)]
      omega
  have hint : Integer.ofInt? i.val = some i := dif_pos i.inRange
  unfold numberValue? intNumber
  dsimp only
  rw [hdigits]
  dsimp only
  rw [if_pos ⟨rfl, rfl, rfl⟩, wholeValue?, hval, hint]
  dsimp only
  -- Only a zero with a minus sign would be read as a double, and none is written.
  refine if_neg ?_
  rintro ⟨hneg, hzero⟩
  simp only [decide_eq_true_eq] at hneg
  omega

/-! ## Outlines -/

/-- What can be read of the text of a number. -/
def numberOutline (n : JsonNumber) : Outline :=
  match cutNumber (numberText n) with
  | some (t, _) => .number t
  | none => .broken

theorem numberOutline_integer (i : Integer) :
    numberOutline (.integer i) = .number (intNumber i.val) := by
  have hcut := cutNumber_append (numberLexeme_intText i.val) (fun _ h => nomatch h : Apart [])
  rw [List.append_nil] at hcut
  rw [numberOutline, numberText, hcut]

mutual

/-- What is read of the text of a value. -/
def outline : Json → Outline
  | null => .word .null
  | bool true => .word .true
  | bool false => .word .false
  | number n => numberOutline n
  | string s => .string (escape s.toList)
  | array items => .array (itemOutlines items) true
  | object members => .object (memberOutlines members) true

/-- What is read of the texts of items. -/
def itemOutlines : List Json → List Outline
  | [] => []
  | j :: js => outline j :: itemOutlines js

/-- What is read of the texts of members. -/
def memberOutlines : List (String × Json) → List (List Char × Outline)
  | [] => []
  | (name, j) :: ms => (escape name.toList, outline j) :: memberOutlines ms

end

theorem itemOutlines_eq_map (js : List Json) : itemOutlines js = js.map outline := by
  induction js with
  | nil => rfl
  | cons j js ih => rw [itemOutlines, ih, List.map_cons]

theorem memberOutlines_eq_map (ms : List (String × Json)) :
    memberOutlines ms = ms.map fun m => (escape m.1.toList, m.2.outline) := by
  induction ms with
  | nil => rfl
  | cons m ms ih => rw [memberOutlines, ih, List.map_cons]

mutual

theorem isWhole_outline : (j : Json) → j.isIntegral = true → j.outline.isWhole = true
  | .null, _ => rfl
  | .bool true, _ => rfl
  | .bool false, _ => rfl
  | .number (.integer i), _ => by rw [outline, numberOutline_integer]; rfl
  | .number (.real _), h => absurd h Bool.false_ne_true
  | .string _, _ => rfl
  | .array items, h => areWhole_itemOutlines items h
  | .object members, h => membersAreWhole_memberOutlines members h

theorem areWhole_itemOutlines :
    (js : List Json) → areIntegral js = true → Outline.areWhole (itemOutlines js) = true
  | [], _ => rfl
  | j :: js, h => by
    rw [areIntegral, Bool.and_eq_true] at h
    rw [itemOutlines, Outline.areWhole, isWhole_outline j h.1, areWhole_itemOutlines js h.2]
    rfl

theorem membersAreWhole_memberOutlines : (ms : List (String × Json)) →
    membersAreIntegral ms = true → Outline.membersAreWhole (memberOutlines ms) = true
  | [], _ => rfl
  | (_, j) :: ms, h => by
    rw [membersAreIntegral, Bool.and_eq_true] at h
    rw [memberOutlines, Outline.membersAreWhole, isWhole_outline j h.1,
      membersAreWhole_memberOutlines ms h.2]
    rfl

end

/-! ## Writing -/

theorem lexed_fixed (t : Token) {w rest : List Char} {ts : List Token} (ht : t.fixedText = some w)
    (hrest : Lexed rest ts) : Lexed (w ++ rest) (t :: ts) := by
  refine .token (.fixed ht) ?_ hrest
  rintro n rfl
  cases ht

theorem lexed_quoted {rest : List Char} {ts : List Token} (s : String) (hrest : Lexed rest ts) :
    Lexed (quoted s ++ rest) (.string (escape s.toList) :: ts) :=
  .token (.string (literal_escape s.toList)) (fun _ h => nomatch h) hrest

/-- A comma or the end of a container may follow a number. -/
theorem apart_cons {c : Char} {cs : List Char} (h : c = ',' ∨ c = ']' ∨ c = '\x7d') :
    Apart (c :: cs) := by
  intro d hd
  obtain rfl := Option.some.inj hd
  rcases h with rfl | rfl | rfl <;> decide

mutual

/-- The text of a value is made of the lexemes of its outline, whatever follows that cannot continue
a number. -/
theorem lexed_print {rest : List Char} {ts : List Token} (hrest : Lexed rest ts)
    (hapart : Apart rest) :
    (j : Json) → j.isIntegral = true → Lexed (j.print ++ rest) (j.outline.tokens ++ ts)
  | .null, _ => lexed_fixed (.word .null) rfl hrest
  | .bool true, _ => lexed_fixed (.word .true) rfl hrest
  | .bool false, _ => lexed_fixed (.word .false) rfl hrest
  | .number (.integer i), _ => by
    rw [outline, numberOutline_integer]
    exact .token (.number (numberLexeme_intText i.val)) (fun _ _ => hapart) hrest
  | .number (.real _), h => absurd h Bool.false_ne_true
  | .string s, _ => lexed_quoted s hrest
  | .array items, h => by
    have hclose : Lexed (']' :: rest) _ := lexed_fixed .closeArray rfl hrest
    have hitems := lexed_printItems hclose (apart_cons (.inr (.inl rfl))) items h
    have hopen := lexed_fixed .openArray rfl hitems
    rw [print, outline, Outline.tokens]
    simpa using hopen
  | .object members, h => by
    have hclose : Lexed ('\x7d' :: rest) _ := lexed_fixed .closeObject rfl hrest
    have hmembers := lexed_printMembers hclose (apart_cons (.inr (.inr rfl))) members h
    have hopen := lexed_fixed .openObject rfl hmembers
    rw [print, outline, Outline.tokens]
    simpa using hopen

theorem lexed_printItems {rest : List Char} {ts : List Token} (hrest : Lexed rest ts)
    (hapart : Apart rest) : (js : List Json) → areIntegral js = true →
      Lexed (printItems js ++ rest) (Outline.itemTokens (itemOutlines js) ++ ts)
  | [], _ => hrest
  | [j], h => by
    rw [areIntegral, Bool.and_eq_true] at h
    exact lexed_print hrest hapart j h.1
  | j :: k :: ks, h => by
    rw [areIntegral, Bool.and_eq_true] at h
    have hitems := lexed_printItems hrest hapart (k :: ks) h.2
    have hcomma := lexed_fixed .comma rfl hitems
    have hprint := lexed_print hcomma (apart_cons (.inl rfl)) j h.1
    simpa [printItems, itemOutlines, Outline.itemTokens] using hprint

theorem lexed_printMembers {rest : List Char} {ts : List Token} (hrest : Lexed rest ts)
    (hapart : Apart rest) : (ms : List (String × Json)) → membersAreIntegral ms = true →
      Lexed (printMembers ms ++ rest) (Outline.memberTokens (memberOutlines ms) ++ ts)
  | [], _ => hrest
  | [(name, j)], h => by
    rw [membersAreIntegral, Bool.and_eq_true] at h
    have hprint := lexed_print hrest hapart j h.1
    have hcolon := lexed_fixed .colon rfl hprint
    have hmember := lexed_quoted name hcolon
    simpa [printMembers, memberOutlines, Outline.memberTokens] using hmember
  | (name, j) :: m :: ms, h => by
    rw [membersAreIntegral, Bool.and_eq_true] at h
    have hmembers := lexed_printMembers hrest hapart (m :: ms) h.2
    have hcomma := lexed_fixed .comma rfl hmembers
    have hprint := lexed_print hcomma (apart_cons (.inl rfl)) j h.1
    have hcolon := lexed_fixed .colon rfl hprint
    have hmember := lexed_quoted name hcolon
    simpa [printMembers, memberOutlines, Outline.memberTokens] using hmember

end

theorem ofText_print {j : Json} (h : j.isIntegral = true) :
    Outline.ofText j.print = (j.outline, true) := by
  have hlexed := lexed_print .nil (fun _ h => nomatch h) j h
  rw [List.append_nil, List.append_nil] at hlexed
  exact Outline.ofText_of_lexed (isWhole_outline j h) hlexed

/-! ## Reading -/

mutual

/-- A value is read from its outline when there is room for its depth. -/
theorem value?_outline : {room : Nat} → (j : Json) → j.isIntegral = true → j.depth ≤ room →
    j.outline.value? room = some j
  | _, .null, _, _ => rfl
  | _, .bool true, _, _ => rfl
  | _, .bool false, _, _ => rfl
  | _, .number (.integer i), _, _ => by
    rw [outline, numberOutline_integer, Outline.value?, numberValue?_intNumber]
    rfl
  | _, .number (.real _), h, _ => absurd h Bool.false_ne_true
  | _, .string s, _, _ => by rw [outline, Outline.value?, stringValue?_escape]; rfl
  | 0, .array _, _, hdepth => by
    rw [depth] at hdepth
    omega
  | room + 1, .array items, h, hdepth => by
    rw [depth] at hdepth
    rw [outline, Outline.value?, if_pos rfl, itemValues?_itemOutlines items h (by omega)]
    rfl
  | 0, .object _, _, hdepth => by
    rw [depth] at hdepth
    omega
  | room + 1, .object members, h, hdepth => by
    rw [depth] at hdepth
    rw [outline, Outline.value?, if_pos rfl, memberValues?_memberOutlines members h (by omega)]
    rfl

theorem itemValues?_itemOutlines : {room : Nat} → (js : List Json) → areIntegral js = true →
    itemDepth js ≤ room → Outline.itemValues? room (itemOutlines js) = some js
  | _, [], _, _ => rfl
  | _, j :: js, h, hdepth => by
    rw [areIntegral, Bool.and_eq_true] at h
    rw [itemDepth, Nat.max_le] at hdepth
    rw [itemOutlines, Outline.itemValues?, value?_outline j h.1 hdepth.1,
      itemValues?_itemOutlines js h.2 hdepth.2]
    rfl

theorem memberValues?_memberOutlines : {room : Nat} → (ms : List (String × Json)) →
    membersAreIntegral ms = true → memberDepth ms ≤ room →
    Outline.memberValues? room (memberOutlines ms) = some ms
  | _, [], _, _ => rfl
  | _, (name, j) :: ms, h, hdepth => by
    rw [membersAreIntegral, Bool.and_eq_true] at h
    rw [memberDepth, Nat.max_le] at hdepth
    rw [memberOutlines, Outline.memberValues?, stringValue?_escape, value?_outline j h.1 hdepth.1,
      memberValues?_memberOutlines ms h.2 hdepth.2]
    rfl

end

/-! ## Ordered values -/

mutual

theorem ordered_eq_self : (j : Json) → j.Ordered → j.ordered = j
  | .null, _ => rfl
  | .bool _, _ => rfl
  | .number _, _ => rfl
  | .string _, _ => rfl
  | .array items, h => by
    cases h with
    | array h => rw [Json.ordered, orderedItems_eq_self items h]
  | .object members, h => by
    cases h with
    | object sorted h =>
      rw [Json.ordered, orderedMembers_eq_self members h]
      have hmap := NameMap.ofList_toList ⟨members, sorted⟩
      exact congrArg (fun m : NameMap Json => object m.toList) hmap

theorem orderedItems_eq_self : (js : List Json) → (∀ j ∈ js, j.Ordered) → orderedItems js = js
  | [], _ => rfl
  | j :: js, h => by
    rw [orderedItems, ordered_eq_self j (h j List.mem_cons_self),
      orderedItems_eq_self js fun k hk => h k (List.mem_cons_of_mem j hk)]

theorem orderedMembers_eq_self :
    (ms : List (String × Json)) → (∀ m ∈ ms, m.2.Ordered) → orderedMembers ms = ms
  | [], _ => rfl
  | (name, j) :: ms, h => by
    rw [orderedMembers, ordered_eq_self j (h _ List.mem_cons_self),
      orderedMembers_eq_self ms fun m hm => h m (List.mem_cons_of_mem _ hm)]

end

end Json

theorem Datum.ofJson_json (d : Datum) : Datum.ofJson d.json = d := by
  obtain ⟨j, h⟩ := d
  have hself := Json.ordered_eq_self j h
  unfold Datum.ofJson
  congr

end HealthWatch
