/-!
# UTF-8

Characters as bytes and back. A sequence of bytes is cut into the shortest forms of characters;
where it holds none, strict decoding fails and lenient decoding puts one replacement character in
the place of the longest part that could have begun a character.

A text can be cut at a byte when that byte is not inside a character; `cutAtByte?_eq_some_iff` says
what the parts are.
-/

namespace HealthWatch.Text

def utf8Bytes (c : Char) : List UInt8 := String.utf8EncodeChar c

def encodeUtf8 (cs : List Char) : List UInt8 := cs.flatMap utf8Bytes

/-- How a first byte begins a character: the number of bytes that follow, its own bits, and the
bounds of the second byte. -/
def leadByte (b : UInt8) : Option (Nat × Nat × Nat × Nat) :=
  let n := b.toNat
  if n < 0x80 then some (0, n, 0x80, 0xBF)
  else if 0xC2 ≤ n ∧ n ≤ 0xDF then some (1, n - 0xC0, 0x80, 0xBF)
  else if n = 0xE0 then some (2, 0, 0xA0, 0xBF)
  else if n = 0xED then some (2, 0xD, 0x80, 0x9F)
  else if 0xE1 ≤ n ∧ n ≤ 0xEF then some (2, n - 0xE0, 0x80, 0xBF)
  else if n = 0xF0 then some (3, 0, 0x90, 0xBF)
  else if n = 0xF4 then some (3, 4, 0x80, 0x8F)
  else if 0xF1 ≤ n ∧ n ≤ 0xF3 then some (3, n - 0xF0, 0x80, 0xBF)
  else none

/-- The code point of a first byte's bits and the bytes that follow, each between two bounds, and
the number of bytes taken; none with that number when a byte is missing or wrong. -/
def codePoint : Nat → Nat → Nat → Nat → List UInt8 → Option Nat × Nat
  | 0, bits, _, _, _ => (some bits, 0)
  | _ + 1, _, _, _, [] => (none, 0)
  | count + 1, bits, low, high, b :: bs =>
    if low ≤ b.toNat ∧ b.toNat ≤ high then
      let (n, taken) := codePoint count (bits * 64 + (b.toNat - 0x80)) 0x80 0xBF bs
      (n, taken + 1)
    else (none, 0)

/-- The character at the front of some bytes, none when there is no whole one, and the number of
bytes after the first that it, or what could have begun it, takes. -/
def frontChar (b : UInt8) (bs : List UInt8) : Option Char × Nat :=
  match leadByte b with
  | none => (none, 0)
  | some (count, bits, low, high) =>
    let (n, taken) := codePoint count bits low high bs
    (n.map Char.ofNat, taken)

/-- The characters of some bytes, each none standing for a part that is no character; the first
`skip` bytes are passed over. -/
def decodeAfter : Nat → List UInt8 → List (Option Char)
  | _, [] => []
  | skip + 1, _ :: bs => decodeAfter skip bs
  | 0, b :: bs =>
    let (c, taken) := frontChar b bs
    c :: decodeAfter taken bs

/-- The text of some bytes, none when they are not UTF-8. -/
def decodeUtf8? (bs : List UInt8) : Option (List Char) := (decodeAfter 0 bs).mapM id

/-- The text of some bytes, with a replacement character for each part that is none. -/
def decodeUtf8Lossy (bs : List UInt8) : List Char :=
  (decodeAfter 0 bs).map fun c => c.getD '\uFFFD'

/-! ## Bytes as places in a text -/

/-- The number of bytes of a text. -/
def byteLength : List Char → Nat
  | [] => 0
  | c :: cs => c.utf8Size + byteLength cs

/-- The parts of a text before a byte and from that byte on, none when the byte is inside a
character or past the end. -/
def cutAtByte? : Nat → List Char → Option (List Char × List Char)
  | 0, cs => some ([], cs)
  | _ + 1, [] => none
  | n + 1, c :: cs =>
    if c.utf8Size ≤ n + 1 then
      (cutAtByte? (n + 1 - c.utf8Size) cs).map fun p => (c :: p.1, p.2)
    else none

theorem byteLength_append (a b : List Char) : byteLength (a ++ b) = byteLength a + byteLength b := by
  induction a with
  | nil => exact (Nat.zero_add _).symm
  | cons c a ih => rw [List.cons_append, byteLength, byteLength, ih, Nat.add_assoc]

theorem byteLength_eq_zero_iff {cs : List Char} : byteLength cs = 0 ↔ cs = [] := by
  cases cs with
  | nil => exact ⟨fun _ => rfl, fun _ => rfl⟩
  | cons c cs =>
    have hpos := c.utf8Size_pos
    rw [byteLength]
    exact ⟨fun h => by omega, fun h => (nomatch h)⟩

/-- A text is cut at a byte exactly when the part before that byte has so many bytes. -/
theorem cutAtByte?_eq_some_iff {n : Nat} {cs a b : List Char} :
    cutAtByte? n cs = some (a, b) ↔ cs = a ++ b ∧ byteLength a = n := by
  fun_induction cutAtByte? n cs generalizing a with
  | case1 cs =>
    rw [byteLength_eq_zero_iff]
    constructor
    · rintro ⟨⟩
      exact ⟨rfl, rfl⟩
    · rintro ⟨rfl, rfl⟩
      rfl
  | case2 n =>
    refine ⟨fun h => (nomatch h), ?_⟩
    rintro ⟨hnil, hlen⟩
    obtain ⟨rfl, -⟩ := List.append_eq_nil_iff.1 hnil.symm
    cases hlen
  | case3 n c cs hfits ih =>
    rw [Option.map_eq_some_iff]
    constructor
    · rintro ⟨⟨front, back⟩, hcut, heq⟩
      cases heq
      obtain ⟨rfl, hlen⟩ := ih.1 hcut
      rw [byteLength, hlen]
      exact ⟨rfl, Nat.add_sub_cancel' hfits⟩
    · rintro ⟨hcs, hlen⟩
      cases a with
      | nil => cases hlen
      | cons d a =>
        obtain ⟨rfl, rfl⟩ := List.cons.inj hcs
        rw [byteLength] at hlen
        exact ⟨(a, b), ih.2 ⟨rfl, by omega⟩, rfl⟩
  | case4 n c cs hfits =>
    refine ⟨fun h => (nomatch h), ?_⟩
    rintro ⟨hcs, hlen⟩
    cases a with
    | nil => cases hlen
    | cons d a =>
      obtain ⟨rfl, -⟩ := List.cons.inj hcs
      rw [byteLength] at hlen
      omega

end HealthWatch.Text
