import HealthWatch.Text.Percent
/-!
# Encoded texts are decoded

UTF-8 is read back character by character, and the percent encoding byte by byte as long as percent signs
are encoded themselves. `spells_percentEncode` puts the two together.
-/

namespace HealthWatch.Text

/-! ## UTF-8 -/

theorem utf8Bytes_ascii {c : Char} (h : c.toNat < 0x80) : utf8Bytes c = [UInt8.ofNat c.toNat] :=
  if_pos (Nat.le_of_lt_succ h)

theorem leadByte_one {v : Nat} (h : v < 0x80) :
    leadByte (UInt8.ofNat v) = some (0, v, 0x80, 0xBF) := by
  have hbyte : (UInt8.ofNat v).toNat = v := by
    rw [UInt8.toNat_ofNat']
    omega
  unfold leadByte
  rw [hbyte]
  exact if_pos h

theorem leadByte_two {v : Nat} (hlow : 0x80 ≤ v) (hhigh : v < 0x800) :
    leadByte (UInt8.ofNat (v / 64 % 32 + 192)) = some (1, v / 64, 0x80, 0xBF) := by
  have hbyte : (UInt8.ofNat (v / 64 % 32 + 192)).toNat = v / 64 + 192 := by
    rw [UInt8.toNat_ofNat']
    omega
  unfold leadByte
  rw [hbyte]
  dsimp only
  rw [if_neg (by omega), if_pos (by omega), Nat.add_sub_cancel]

/-- The bounds of the second byte shut out longer forms than needed and the code points that are no
characters. -/
theorem leadByte_three {v : Nat} (hlow : 0x800 ≤ v) (hhigh : v < 0x10000)
    (hvalid : v < 0xD800 ∨ 0xDFFF < v) :
    ∃ low high, leadByte (UInt8.ofNat (v / 4096 % 16 + 224)) = some (2, v / 4096, low, high) ∧
      low ≤ v / 64 % 64 + 128 ∧ v / 64 % 64 + 128 ≤ high := by
  have hbyte : (UInt8.ofNat (v / 4096 % 16 + 224)).toNat = v / 4096 + 224 := by
    rw [UInt8.toNat_ofNat']
    omega
  unfold leadByte
  rw [hbyte]
  dsimp only
  rw [if_neg (by omega), if_neg (by omega)]
  split
  · next hfirst => exact ⟨0xA0, 0xBF, by rw [Nat.eq_sub_of_add_eq hfirst], by omega, by omega⟩
  · split
    · next hlast => exact ⟨0x80, 0x9F, by rw [Nat.eq_sub_of_add_eq hlast], by omega, by omega⟩
    · rw [if_pos (by omega), Nat.add_sub_cancel]
      exact ⟨0x80, 0xBF, rfl, by omega, by omega⟩

theorem leadByte_four {v : Nat} (hlow : 0x10000 ≤ v) (hhigh : v < 0x110000) :
    ∃ low high, leadByte (UInt8.ofNat (v / 262144 % 8 + 240)) = some (3, v / 262144, low, high) ∧
      low ≤ v / 4096 % 64 + 128 ∧ v / 4096 % 64 + 128 ≤ high := by
  have hbyte : (UInt8.ofNat (v / 262144 % 8 + 240)).toNat = v / 262144 + 240 := by
    rw [UInt8.toNat_ofNat']
    omega
  unfold leadByte
  rw [hbyte]
  dsimp only
  rw [if_neg (by omega), if_neg (by omega), if_neg (by omega), if_neg (by omega),
    if_neg (by omega)]
  split
  · next hfirst => exact ⟨0x90, 0xBF, by rw [Nat.eq_sub_of_add_eq hfirst], by omega, by omega⟩
  · split
    · next hlast => exact ⟨0x80, 0x8F, by rw [Nat.eq_sub_of_add_eq hlast], by omega, by omega⟩
    · rw [if_pos (by omega), Nat.add_sub_cancel]
      exact ⟨0x80, 0xBF, rfl, by omega, by omega⟩

theorem codePoint_zero {bits low high n : Nat} (h : bits = n) (rest : List UInt8) :
    codePoint 0 bits low high rest = (some n, 0) := by
  rw [codePoint, h]

theorem codePoint_cons {count bits low high n taken : Nat} {point : Option Nat} {bs : List UInt8}
    (hn : n < 0x100) (hlow : low ≤ n) (hhigh : n ≤ high)
    (h : codePoint count (bits * 64 + (n - 0x80)) 0x80 0xBF bs = (point, taken)) :
    codePoint (count + 1) bits low high (UInt8.ofNat n :: bs) = (point, taken + 1) := by
  have hbyte : (UInt8.ofNat n).toNat = n := UInt8.toNat_ofNat_of_lt hn
  rw [codePoint, hbyte, if_pos ⟨hlow, hhigh⟩, h]

theorem frontChar_of_codePoint {c : Char} {b : UInt8} {bs : List UInt8}
    {count bits low high taken : Nat} (hlead : leadByte b = some (count, bits, low, high))
    (hpoint : codePoint count bits low high bs = (some c.toNat, taken)) :
    frontChar b bs = (some c, taken) := by
  unfold frontChar
  rw [hlead]
  dsimp only
  rw [hpoint]
  dsimp only [Option.map_some]
  rw [Char.ofNat_toNat]

/-- The bytes of a character are those of the character at their front, whatever comes after them. -/
theorem frontChar_utf8Bytes (c : Char) (rest : List UInt8) :
    ∃ b bs, utf8Bytes c = b :: bs ∧ frontChar b (bs ++ rest) = (some c, bs.length) := by
  have hvalid : c.toNat < 0xD800 ∨ 0xDFFF < c.toNat ∧ c.toNat < 0x110000 := c.valid
  unfold utf8Bytes String.utf8EncodeChar
  rw [show c.val.toNat = c.toNat from rfl]
  dsimp only
  -- One case for each number of bytes.
  split
  · exact ⟨_, _, rfl, frontChar_of_codePoint (leadByte_one (by omega)) (codePoint_zero rfl _)⟩
  · split
    · refine ⟨_, _, rfl, frontChar_of_codePoint (leadByte_two (by omega) (by omega)) ?_⟩
      exact codePoint_cons (by omega) (by omega) (by omega) (codePoint_zero (by omega) _)
    · split
      · obtain ⟨low, high, hlead, hlow, hhigh⟩ :=
          @leadByte_three c.toNat (by omega) (by omega) (by omega)
        refine ⟨_, _, rfl, frontChar_of_codePoint hlead (codePoint_cons (by omega) hlow hhigh ?_)⟩
        exact codePoint_cons (by omega) (by omega) (by omega) (codePoint_zero (by omega) _)
      · obtain ⟨low, high, hlead, hlow, hhigh⟩ := @leadByte_four c.toNat (by omega) (by omega)
        refine ⟨_, _, rfl, frontChar_of_codePoint hlead (codePoint_cons (by omega) hlow hhigh ?_)⟩
        refine codePoint_cons (by omega) (by omega) (by omega) ?_
        exact codePoint_cons (by omega) (by omega) (by omega) (codePoint_zero (by omega) _)

theorem encodeUtf8_cons (c : Char) (cs : List Char) :
    encodeUtf8 (c :: cs) = utf8Bytes c ++ encodeUtf8 cs :=
  List.flatMap_cons

theorem encodeUtf8_append (cs ds : List Char) :
    encodeUtf8 (cs ++ ds) = encodeUtf8 cs ++ encodeUtf8 ds :=
  List.flatMap_append

theorem decodeAfter_length (bs rest : List UInt8) :
    decodeAfter bs.length (bs ++ rest) = decodeAfter 0 rest := by
  induction bs with
  | nil => rfl
  | cons b bs ih => rw [List.length_cons, List.cons_append, decodeAfter, ih]

theorem decodeAfter_encodeUtf8 (cs : List Char) : decodeAfter 0 (encodeUtf8 cs) = cs.map some := by
  induction cs with
  | nil => rfl
  | cons c cs ih =>
    obtain ⟨b, bs, hbytes, hfront⟩ := frontChar_utf8Bytes c (encodeUtf8 cs)
    have hcons : encodeUtf8 (c :: cs) = b :: (bs ++ encodeUtf8 cs) := by
      rw [encodeUtf8_cons, hbytes, List.cons_append]
    rw [hcons, decodeAfter, hfront]
    dsimp only
    rw [decodeAfter_length, ih, List.map_cons]

theorem decodeUtf8?_encodeUtf8 (cs : List Char) : decodeUtf8? (encodeUtf8 cs) = some cs := by
  rw [decodeUtf8?, decodeAfter_encodeUtf8]
  induction cs with
  | nil => rfl
  | cons c cs ih => rw [List.map_cons, List.mapM_cons, ih]; rfl

/-! ## Percent encoding -/

theorem percentDecode_cons {b : UInt8} (h : b ≠ 0x25) (rest : List UInt8) :
    percentDecode (b :: rest) = b :: percentDecode rest := by
  match rest with
  | [] => rfl
  | [_] => rfl
  | _ :: _ :: _ => rw [percentDecode, if_neg h]

theorem percentDecode_triple {h l : UInt8} {high low : Nat} (hhigh : hexByte? h = some high)
    (hlow : hexByte? l = some low) (rest : List UInt8) :
    percentDecode (0x25 :: h :: l :: rest) = UInt8.ofNat (16 * high + low) :: percentDecode rest := by
  rw [percentDecode, if_pos rfl, hhigh, hlow]

theorem hexByte?_capitalHex {n : Nat} (h : n < 16) :
    hexByte? (UInt8.ofNat (capitalHex n).toNat) = some n := by
  have hall : ∀ m < 16, hexByte? (UInt8.ofNat (capitalHex m).toNat) = some m := by decide
  exact hall n h

theorem capitalHex_lt {n : Nat} (h : n < 16) : (capitalHex n).toNat < 0x80 := by
  have hall : ∀ m < 16, (capitalHex m).toNat < 0x80 := by decide
  exact hall n h

theorem percentDecode_percentByte (b : UInt8) (rest : List UInt8) :
    percentDecode (encodeUtf8 (percentByte b) ++ rest) = b :: percentDecode rest := by
  have hb : b.toNat < 256 := b.toNat_lt
  have hhigh : b.toNat / 16 < 16 := by omega
  have hlow : b.toNat % 16 < 16 := by omega
  have hbytes : encodeUtf8 (percentByte b) = [0x25, UInt8.ofNat (capitalHex (b.toNat / 16)).toNat,
      UInt8.ofNat (capitalHex (b.toNat % 16)).toNat] := by
    simp only [encodeUtf8, percentByte, List.flatMap_cons, List.flatMap_nil,
      utf8Bytes_ascii (capitalHex_lt hhigh), utf8Bytes_ascii (capitalHex_lt hlow)]
    rfl
  rw [hbytes]
  show percentDecode (0x25 :: _ :: _ :: rest) = _
  rw [percentDecode_triple (hexByte?_capitalHex hhigh) (hexByte?_capitalHex hlow)]
  rw [Nat.div_add_mod, UInt8.ofNat_toNat]

theorem percentDecode_percentBytes (bs rest : List UInt8) :
    percentDecode (encodeUtf8 (bs.flatMap percentByte) ++ rest) = bs ++ percentDecode rest := by
  induction bs with
  | nil => rfl
  | cons b bs ih =>
    rw [List.flatMap_cons, encodeUtf8_append, List.append_assoc, percentDecode_percentByte, ih,
      List.cons_append]

section

variable {encodes : Char → Bool}

theorem percentDecode_percentChar (hpercent : encodes '%' = true) (c : Char) (rest : List UInt8) :
    percentDecode (encodeUtf8 (percentChar encodes c) ++ rest) = utf8Bytes c ++ percentDecode rest := by
  unfold percentChar
  split
  · next hplain =>
    rw [Bool.and_eq_true, decide_eq_true_eq, Bool.not_eq_true'] at hplain
    obtain ⟨hascii, hnot⟩ := hplain
    have hne : UInt8.ofNat c.toNat ≠ 0x25 := by
      intro h
      have hnat : c.toNat = '%'.toNat :=
        (UInt8.toNat_ofNat_of_lt (Nat.lt_trans hascii (by decide))).symm.trans
          (congrArg UInt8.toNat h)
      rw [Char.toNat_inj.1 hnat, hpercent] at hnot
      cases hnot
    rw [encodeUtf8_cons, utf8Bytes_ascii hascii]
    exact percentDecode_cons hne rest
  · exact percentDecode_percentBytes _ _

theorem percentDecode_percentEncode (hpercent : encodes '%' = true) (cs : List Char) :
    percentDecode (encodeUtf8 (percentEncode encodes cs)) = encodeUtf8 cs := by
  induction cs with
  | nil => rfl
  | cons c cs ih =>
    rw [percentEncode, List.flatMap_cons, encodeUtf8_append, percentDecode_percentChar hpercent,
      ← percentEncode, ih, encodeUtf8_cons]

/-- A text in a URL stands for a text: its bytes, decoded, are the UTF-8 of it. -/
def Spells (encoded cs : List Char) : Prop :=
  decodeUtf8? (percentDecode (encodeUtf8 encoded)) = some cs

theorem Spells.unique {encoded cs ds : List Char} (h : Spells encoded cs) (h' : Spells encoded ds) :
    cs = ds :=
  Option.some.inj (h.symm.trans h')

/-- Encoding loses nothing if it does not let percent signs through. -/
theorem spells_percentEncode (hpercent : encodes '%' = true) (cs : List Char) :
    Spells (percentEncode encodes cs) cs := by
  rw [Spells, percentDecode_percentEncode hpercent, decodeUtf8?_encodeUtf8]

/-! ## What encoded texts hold -/

theorem mem_percentByte {b : UInt8} {c : Char} (h : c ∈ percentByte b) :
    c = '%' ∨ ∃ n < 16, c = capitalHex n := by
  have hb : b.toNat < 256 := b.toNat_lt
  simp only [percentByte, List.mem_cons, List.not_mem_nil, or_false] at h
  obtain rfl | rfl | rfl := h
  · exact .inl rfl
  · exact .inr ⟨_, by omega, rfl⟩
  · exact .inr ⟨_, by omega, rfl⟩

theorem mem_percentEncode {c : Char} {cs : List Char} (h : c ∈ percentEncode encodes cs) :
    c = '%' ∨ (∃ n < 16, c = capitalHex n) ∨ c ∈ cs ∧ encodes c = false := by
  obtain ⟨d, hd, hc⟩ := List.mem_flatMap.1 h
  unfold percentChar at hc
  split at hc
  · next hplain =>
    rw [Bool.and_eq_true, Bool.not_eq_true'] at hplain
    obtain rfl := List.mem_singleton.1 hc
    exact .inr (.inr ⟨hd, hplain.2⟩)
  · obtain ⟨b, -, hb⟩ := List.mem_flatMap.1 hc
    obtain h | h := mem_percentByte hb
    · exact .inl h
    · exact .inr (.inl h)

end

end HealthWatch.Text
