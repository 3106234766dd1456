import HealthWatch.Json.Decode
import HealthWatch.Text.Utf8
/-!
# Percent encoding

A character that may not stand for itself is written as its UTF-8 bytes, each as a percent sign and
two hexadecimal digits. Decoding takes such triples for bytes wherever they stand; a percent sign
without two digits after it stands for itself.
-/

namespace HealthWatch.Text

/-- The capital hexadecimal digit of a number below sixteen. -/
def capitalHex (n : Nat) : Char := if n < 10 then Char.ofNat (48 + n) else Char.ofNat (55 + n)

/-- A byte as a percent sign and two digits. -/
def percentByte (b : UInt8) : List Char :=
  ['%', capitalHex (b.toNat / 16), capitalHex (b.toNat % 16)]

/-- A character, encoded unless it is one of ASCII that stands for itself. -/
def percentChar (encodes : Char → Bool) (c : Char) : List Char :=
  if c.toNat < 0x80 && !encodes c then [c] else (utf8Bytes c).flatMap percentByte

/-- A text with the characters of a set and all beyond ASCII encoded. -/
def percentEncode (encodes : Char → Bool) (cs : List Char) : List Char :=
  cs.flatMap (percentChar encodes)

/-- The number of a byte that is a hexadecimal digit. -/
def hexByte? (b : UInt8) : Option Nat :=
  let c := Char.ofNat b.toNat
  if Json.isHex c then some (Json.hexValue c) else none

def percentDecode : List UInt8 → List UInt8
  | [] => []
  | b :: h :: l :: rest =>
    if b = 0x25 then
      match hexByte? h, hexByte? l with
      | some high, some low => UInt8.ofNat (16 * high + low) :: percentDecode rest
      | _, _ => b :: percentDecode (h :: l :: rest)
    else b :: percentDecode (h :: l :: rest)
  | b :: rest => b :: percentDecode rest

/-- The text that an encoded text stands for, with replacements where the bytes are not UTF-8. -/
def percentDecodeText (cs : List Char) : List Char :=
  decodeUtf8Lossy (percentDecode (encodeUtf8 cs))

end HealthWatch.Text
