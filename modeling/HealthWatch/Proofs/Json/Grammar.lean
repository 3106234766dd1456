import HealthWatch.Json.Outline
import HealthWatch.Proofs.Json.Lexing
/-!
# Outlines and their tokens

An outline that was read to its end has one row of tokens. `readValue_tokens` and `eq_of_readValue`
say that reading is the inverse of writing these tokens down, and `isText_iff` that a text is a JSON text
exactly when it is made of the lexemes of such an outline.
-/

namespace HealthWatch.Json

/-- The token with other contents, if it is a string literal. -/
def Token.mapString (f : List Char → List Char) : Token → Token
  | .string raw => .string (f raw)
  | t => t

theorem Token.mapString_mapString (f g : List Char → List Char) (t : Token) :
    (t.mapString f).mapString g = t.mapString fun raw => g (f raw) := by
  cases t <;> rfl

namespace Outline

mutual

/-- The tokens of a value. -/
def tokens : Outline → List Token
  | word w => [.word w]
  | number n => [.number n]
  | string raw => [.string raw]
  | array items _ => .openArray :: (itemTokens items ++ [.closeArray])
  | object members _ => .openObject :: (memberTokens members ++ [.closeObject])
  | broken => [.fault]

/-- The tokens of items, with commas between them. -/
def itemTokens : List Outline → List Token
  | [] => []
  | [item] => tokens item
  | item :: items => tokens item ++ .comma :: itemTokens items

/-- The tokens of members, with commas between them. -/
def memberTokens : List (List Char × Outline) → List Token
  | [] => []
  | [(name, value)] => .string name :: .colon :: tokens value
  | (name, value) :: members =>
    .string name :: .colon :: (tokens value ++ .comma :: memberTokens members)

end

variable {o item value : Outline} {items : List Outline} {members : List (List Char × Outline)}
  {name : List Char}

theorem itemTokens_cons (hne : items ≠ []) :
    itemTokens (item :: items) = tokens item ++ .comma :: itemTokens items := by
  obtain ⟨o, os, rfl⟩ := List.exists_cons_of_ne_nil hne
  rw [itemTokens]
  exact List.cons_ne_nil o os

theorem memberTokens_cons (hne : members ≠ []) :
    memberTokens ((name, value) :: members) =
      .string name :: .colon :: (tokens value ++ .comma :: memberTokens members) := by
  obtain ⟨m, ms, rfl⟩ := List.exists_cons_of_ne_nil hne
  rw [memberTokens]
  exact List.cons_ne_nil m ms

/-- A value does not begin with the end of an array. -/
theorem exists_tokens_cons (o : Outline) : ∃ t ts, o.tokens = t :: ts ∧ t ≠ .closeArray := by
  cases o with
  | word w => exact ⟨_, _, rfl, by simp⟩
  | number n => exact ⟨_, _, rfl, by simp⟩
  | string raw => exact ⟨_, _, rfl, by simp⟩
  | array items closed => exact ⟨_, _, rfl, by simp⟩
  | object members closed => exact ⟨_, _, rfl, by simp⟩
  | broken => exact ⟨_, _, rfl, by simp⟩

theorem length_tokens_pos (o : Outline) : 0 < o.tokens.length := by
  obtain ⟨t, ts, h, -⟩ := o.exists_tokens_cons
  rw [h]
  exact Nat.succ_pos _

/-! ## Reading what is written -/

theorem readValue_items {fuel : Nat} {ts : List Token} (h : ts.head? ≠ some .closeArray) :
    readValue (fuel + 1) (.openArray :: ts) =
      (array (readItems fuel ts).1 (readItems fuel ts).2.1, (readItems fuel ts).2.2) := by
  rw [readValue]
  rintro rest rfl
  exact h rfl

theorem readValue_members {fuel : Nat} {ts : List Token} (h : ts.head? ≠ some .closeObject) :
    readValue (fuel + 1) (.openObject :: ts) =
      (object (readMembers fuel ts).1 (readMembers fuel ts).2.1, (readMembers fuel ts).2.2) := by
  rw [readValue]
  rintro rest rfl
  exact h rfl

mutual

/-- Fuel for every second token is enough. -/
theorem readValue_tokens {rest : List Token} : (o : Outline) → (fuel : Nat) → o.isWhole = true →
    2 * o.tokens.length ≤ fuel + 1 → readValue fuel (o.tokens ++ rest) = (o, rest)
  | o, 0, _, hfuel => by
    have := o.length_tokens_pos
    omega
  | .word _, _ + 1, _, _ => rfl
  | .number _, _ + 1, _, _ => rfl
  | .string _, _ + 1, _, _ => rfl
  | .array items closed, fuel + 1, hwhole, hfuel => by
    rw [isWhole, Bool.and_eq_true] at hwhole
    obtain ⟨rfl, hitems⟩ := hwhole
    cases items with
    | nil => rfl
    | cons item items =>
      simp only [tokens, List.length_cons, List.length_append, List.length_nil] at hfuel
      have hread := @readItems_tokens rest item items fuel hitems (by omega)
      -- The array is not taken for an empty one, since no value begins with its end.
      have hhead : (itemTokens (item :: items) ++ .closeArray :: rest).head? ≠ some .closeArray := by
        obtain ⟨t, ts, ht, hne⟩ := item.exists_tokens_cons
        cases items with
        | nil => simpa [itemTokens, ht] using hne
        | cons => simpa [itemTokens, ht] using hne
      simp only [tokens, List.cons_append, List.append_assoc, List.nil_append]
      rw [readValue_items hhead, hread]
  | .object members closed, fuel + 1, hwhole, hfuel => by
    rw [isWhole, Bool.and_eq_true] at hwhole
    obtain ⟨rfl, hmembers⟩ := hwhole
    cases members with
    | nil => rfl
    | cons m members =>
      obtain ⟨name, value⟩ := m
      simp only [tokens, List.length_cons, List.length_append, List.length_nil] at hfuel
      have hread := @readMembers_tokens rest name value members fuel hmembers (by omega)
      have hhead : (memberTokens ((name, value) :: members) ++ .closeObject :: rest).head? ≠
          some .closeObject := by
        cases members <;> simp [memberTokens]
      simp only [tokens, List.cons_append, List.append_assoc, List.nil_append]
      rw [readValue_members hhead, hread]

theorem readItems_tokens {rest : List Token} : (item : Outline) → (items : List Outline) →
    (fuel : Nat) → areWhole (item :: items) = true →
    2 * (itemTokens (item :: items)).length ≤ fuel →
    readItems fuel (itemTokens (item :: items) ++ .closeArray :: rest) = (item :: items, true, rest)
  | item, items, 0, _, hfuel => by
    have := item.length_tokens_pos
    cases items with
    | nil => rw [itemTokens] at hfuel; omega
    | cons => rw [itemTokens_cons (List.cons_ne_nil _ _), List.length_append] at hfuel; omega
  | item, [], fuel + 1, hwhole, hfuel => by
    rw [areWhole, Bool.and_eq_true] at hwhole
    rw [itemTokens] at hfuel ⊢
    rw [readItems, readValue_tokens item fuel hwhole.1 (by omega)]
  | item, o :: os, fuel + 1, hwhole, hfuel => by
    rw [areWhole, Bool.and_eq_true] at hwhole
    rw [itemTokens_cons (List.cons_ne_nil o os), List.length_append, List.length_cons] at hfuel
    rw [itemTokens_cons (List.cons_ne_nil o os), List.append_assoc, readItems,
      readValue_tokens item fuel hwhole.1 (by omega), List.cons_append]
    dsimp only
    rw [readItems_tokens o os fuel hwhole.2 (by omega)]

theorem readMembers_tokens {rest : List Token} : (name : List Char) → (value : Outline) →
    (members : List (List Char × Outline)) → (fuel : Nat) →
    membersAreWhole ((name, value) :: members) = true →
    2 * (memberTokens ((name, value) :: members)).length ≤ fuel →
    readMembers fuel (memberTokens ((name, value) :: members) ++ .closeObject :: rest) =
      ((name, value) :: members, true, rest)
  | name, value, members, 0, _, hfuel => by
    have := value.length_tokens_pos
    cases members <;> simp [memberTokens] at hfuel
  | name, value, [], fuel + 1, hwhole, hfuel => by
    rw [membersAreWhole, Bool.and_eq_true] at hwhole
    simp only [memberTokens, List.length_cons] at hfuel
    simp only [memberTokens, List.cons_append]
    rw [readMembers, readValue_tokens value fuel hwhole.1 (by omega)]
  | name, value, (n, v) :: ms, fuel + 1, hwhole, hfuel => by
    rw [membersAreWhole, Bool.and_eq_true] at hwhole
    rw [memberTokens_cons (List.cons_ne_nil _ _)] at hfuel ⊢
    simp only [List.length_cons, List.length_append] at hfuel
    simp only [List.cons_append, List.append_assoc]
    rw [readMembers, readValue_tokens value fuel hwhole.1 (by omega)]
    dsimp only
    rw [readMembers_tokens n v ms fuel hwhole.2 (by omega)]

end

/-! ## Writing what is read -/

mutual

theorem eq_of_readValue : (fuel : Nat) → {ts rest : List Token} → {o : Outline} →
    readValue fuel ts = (o, rest) → o.isWhole = true → ts = o.tokens ++ rest
  | 0, _, _, _, h, hwhole => by
    cases h
    cases hwhole
  | fuel + 1, ts, rest, o, h, hwhole => by
    unfold readValue at h
    split at h
    · cases h; rfl
    · cases h; rfl
    · cases h; rfl
    · cases h; rfl
    · next r _ =>
      cases h
      rw [isWhole, Bool.and_eq_true] at hwhole
      obtain ⟨-, heq⟩ := eq_of_readItems fuel (Prod.ext rfl (Prod.ext hwhole.1 rfl)) hwhole.2
      simpa [tokens] using heq
    · cases h; rfl
    · next r _ =>
      cases h
      rw [isWhole, Bool.and_eq_true] at hwhole
      obtain ⟨-, heq⟩ := eq_of_readMembers fuel (Prod.ext rfl (Prod.ext hwhole.1 rfl)) hwhole.2
      simpa [tokens] using heq
    · cases h
      cases hwhole

theorem eq_of_readItems : (fuel : Nat) → {ts rest : List Token} → {items : List Outline} →
    readItems fuel ts = (items, true, rest) → areWhole items = true →
    items ≠ [] ∧ ts = itemTokens items ++ .closeArray :: rest
  | 0, _, _, _, h, _ => by cases h
  | fuel + 1, ts, rest, items, h, hwhole => by
    rw [readItems] at h
    generalize hvalue : readValue fuel ts = p at h
    obtain ⟨item, r⟩ := p
    dsimp only at h
    -- After an item comes the end, a comma and further items, or a fault.
    split at h
    · cases h
      rw [areWhole, Bool.and_eq_true] at hwhole
      exact ⟨List.cons_ne_nil _ _, eq_of_readValue fuel hvalue hwhole.1⟩
    · next r' =>
      generalize hitems : readItems fuel r' = q at h
      obtain ⟨items', closed, r''⟩ := q
      cases h
      rw [areWhole, Bool.and_eq_true] at hwhole
      obtain ⟨hne, rfl⟩ := eq_of_readItems fuel hitems hwhole.2
      refine ⟨List.cons_ne_nil _ _, ?_⟩
      rw [itemTokens_cons hne, List.append_assoc]
      exact eq_of_readValue fuel hvalue hwhole.1
    · cases h

theorem eq_of_readMembers : (fuel : Nat) → {ts rest : List Token} →
    {members : List (List Char × Outline)} →
    readMembers fuel ts = (members, true, rest) → membersAreWhole members = true →
    members ≠ [] ∧ ts = memberTokens members ++ .closeObject :: rest
  | 0, _, _, _, h, _ => by cases h
  | fuel + 1, ts, rest, members, h, hwhole => by
    unfold readMembers at h
    split at h
    · next name r =>
      generalize hvalue : readValue fuel r = p at h
      obtain ⟨value, r'⟩ := p
      dsimp only at h
      split at h
      · cases h
        rw [membersAreWhole, Bool.and_eq_true] at hwhole
        obtain rfl := eq_of_readValue fuel hvalue hwhole.1
        exact ⟨List.cons_ne_nil _ _, rfl⟩
      · next r' =>
        generalize hmembers : readMembers fuel r' = q at h
        obtain ⟨members', closed, r''⟩ := q
        cases h
        rw [membersAreWhole, Bool.and_eq_true] at hwhole
        obtain ⟨hne, rfl⟩ := eq_of_readMembers fuel hmembers hwhole.2
        obtain rfl := eq_of_readValue fuel hvalue hwhole.1
        refine ⟨List.cons_ne_nil _ _, ?_⟩
        rw [memberTokens_cons hne]
        simp only [List.cons_append, List.append_assoc]
      · cases h
    · cases h

end

/-! ## Texts -/

variable {cs : List Char}

theorem ofText_of_lexed (hwhole : o.isWhole = true) (h : Lexed cs o.tokens) :
    ofText cs = (o, true) := by
  have hread := @readValue_tokens [] o (2 * o.tokens.length + 1) hwhole (by omega)
  rw [List.append_nil] at hread
  rw [ofText, tokens_of_lexed h, ofTokens, hread]
  rfl

mutual

theorem fault_notMem_tokens : (o : Outline) → o.isWhole = true → .fault ∉ o.tokens
  | .word _, _ => by simp [tokens]
  | .number _, _ => by simp [tokens]
  | .string _, _ => by simp [tokens]
  | .array items _, h => by
    rw [isWhole, Bool.and_eq_true] at h
    simpa [tokens] using fault_notMem_itemTokens items h.2
  | .object members _, h => by
    rw [isWhole, Bool.and_eq_true] at h
    simpa [tokens] using fault_notMem_memberTokens members h.2

theorem fault_notMem_itemTokens :
    (items : List Outline) → areWhole items = true → .fault ∉ itemTokens items
  | [], _ => List.not_mem_nil
  | [item], h => by
    rw [areWhole, Bool.and_eq_true] at h
    exact fault_notMem_tokens item h.1
  | item :: o :: os, h => by
    rw [areWhole, Bool.and_eq_true] at h
    have hitem := fault_notMem_tokens item h.1
    have hitems := fault_notMem_itemTokens (o :: os) h.2
    simp [itemTokens_cons (List.cons_ne_nil o os), hitem, hitems]

theorem fault_notMem_memberTokens : (members : List (List Char × Outline)) →
    membersAreWhole members = true → .fault ∉ memberTokens members
  | [], _ => List.not_mem_nil
  | [(name, value)], h => by
    rw [membersAreWhole, Bool.and_eq_true] at h
    simpa [memberTokens] using fault_notMem_tokens value h.1
  | (name, value) :: m :: ms, h => by
    rw [membersAreWhole, Bool.and_eq_true] at h
    have hvalue := fault_notMem_tokens value h.1
    have hmembers := fault_notMem_memberTokens (m :: ms) h.2
    simp [memberTokens_cons (List.cons_ne_nil m ms), hvalue, hmembers]

end

theorem exists_of_isText (h : isText cs = true) :
    ∃ o : Outline, o.isWhole = true ∧ Lexed cs o.tokens := by
  simp only [isText, ofText, Bool.and_eq_true, List.isEmpty_iff] at h
  obtain ⟨hwhole, hended⟩ := h
  -- A whole outline has no fault among its tokens, so neither has the text.
  have heq := eq_of_readValue _ (Prod.ext rfl hended : ofTokens (Json.tokens cs) = (_, [])) hwhole
  rw [List.append_nil] at heq
  refine ⟨_, hwhole, lexed_iff.2 ⟨heq, fault_notMem_tokens _ hwhole⟩⟩

theorem isText_iff : isText cs = true ↔ ∃ o : Outline, o.isWhole = true ∧ Lexed cs o.tokens := by
  refine ⟨exists_of_isText, ?_⟩
  rintro ⟨o, hwhole, h⟩
  rw [isText, ofText_of_lexed hwhole h]
  exact Bool.and_eq_true_iff.2 ⟨hwhole, rfl⟩

/-! ## Other contents of strings -/

mutual

/-- The outline with other contents in its string literals, names included. -/
def mapStrings (f : List Char → List Char) : Outline → Outline
  | string raw => string (f raw)
  | array items closed => array (mapItems f items) closed
  | object members closed => object (mapMembers f members) closed
  | o => o

/-- The items with other contents in their string literals. -/
def mapItems (f : List Char → List Char) : List Outline → List Outline
  | [] => []
  | item :: items => mapStrings f item :: mapItems f items

/-- The members with other contents in their string literals. -/
def mapMembers (f : List Char → List Char) :
    List (List Char × Outline) → List (List Char × Outline)
  | [] => []
  | (name, value) :: members => (f name, mapStrings f value) :: mapMembers f members

end

variable (f : List Char → List Char)

mutual

theorem isWhole_mapStrings : (o : Outline) → (o.mapStrings f).isWhole = o.isWhole
  | .word _ => rfl
  | .number _ => rfl
  | .string _ => rfl
  | .array items closed => by rw [mapStrings, isWhole, isWhole, areWhole_mapItems items]
  | .object members closed => by
    rw [mapStrings, isWhole, isWhole, membersAreWhole_mapMembers members]
  | .broken => rfl

theorem areWhole_mapItems : (items : List Outline) → areWhole (mapItems f items) = areWhole items
  | [] => rfl
  | item :: items => by
    rw [mapItems, areWhole, areWhole, isWhole_mapStrings item, areWhole_mapItems items]

theorem membersAreWhole_mapMembers : (members : List (List Char × Outline)) →
    membersAreWhole (mapMembers f members) = membersAreWhole members
  | [] => rfl
  | (name, value) :: members => by
    rw [mapMembers, membersAreWhole, membersAreWhole, isWhole_mapStrings value,
      membersAreWhole_mapMembers members]

end

mutual

theorem tokens_mapStrings : (o : Outline) → (o.mapStrings f).tokens = o.tokens.map (·.mapString f)
  | .word _ => rfl
  | .number _ => rfl
  | .string _ => rfl
  | .array items _ => by simp [mapStrings, tokens, Token.mapString, itemTokens_mapItems items]
  | .object members _ => by
    simp [mapStrings, tokens, Token.mapString, memberTokens_mapMembers members]
  | .broken => rfl

theorem itemTokens_mapItems :
    (items : List Outline) → itemTokens (mapItems f items) = (itemTokens items).map (·.mapString f)
  | [] => rfl
  | [item] => tokens_mapStrings item
  | item :: o :: os => by
    have hitems := itemTokens_mapItems (o :: os)
    rw [mapItems, itemTokens_cons (List.cons_ne_nil o os), itemTokens_cons, hitems,
      tokens_mapStrings item, List.map_append]
    · rfl
    · exact List.cons_ne_nil _ _

theorem memberTokens_mapMembers : (members : List (List Char × Outline)) →
    memberTokens (mapMembers f members) = (memberTokens members).map (·.mapString f)
  | [] => rfl
  | [(name, value)] => by
    simp [mapMembers, memberTokens, Token.mapString, tokens_mapStrings value]
  | (name, value) :: m :: ms => by
    have hmembers := memberTokens_mapMembers (m :: ms)
    rw [mapMembers, memberTokens_cons (List.cons_ne_nil m ms), memberTokens_cons, hmembers,
      tokens_mapStrings value]
    · simp [Token.mapString]
    · exact List.cons_ne_nil _ _

end

end Outline

end HealthWatch.Json
